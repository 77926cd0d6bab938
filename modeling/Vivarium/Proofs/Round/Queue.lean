import Vivarium.Proofs.Turn.Effect
import Vivarium.Simulation

/-! The queue of a round. Its slots are listed before the first turn and stay occupied until their
own turn begins, whatever the turns before it do to the board. -/
namespace Vivarium

def Progress.andThen (first second : Progress) : Progress :=
  { second with events := first.events ++ second.events }

namespace World

/-- The loop invariant of a round: every slot still queued is queued once and holds a creature. -/
structure Scheduled (w : World) (queue : List Nat) : Prop where
  distinct : queue.Nodup
  occupied : ∀ slot ∈ queue, (w.occupant? slot).isSome

theorem mem_occupiedSlots {w : World} {slot : Nat} :
    slot ∈ w.occupiedSlots ↔ (w.occupant? slot).isSome := by
  simp only [occupiedSlots, List.mem_filter, List.mem_range]
  exact ⟨fun h => h.2, fun h => ⟨lt_size_of_occupant h, h⟩⟩

theorem occupiedSlots_ascending (w : World) : w.occupiedSlots.Pairwise (· < ·) :=
  List.pairwise_lt_range.filter _

theorem scheduled_occupiedSlots (w : World) : w.Scheduled w.occupiedSlots where
  distinct := w.occupiedSlots_ascending.imp Nat.ne_of_lt
  occupied _ h := mem_occupiedSlots.mp h

theorem Scheduled.left {w : World} {earlier later : List Nat} (h : w.Scheduled (earlier ++ later)) :
    w.Scheduled earlier where
  distinct := h.distinct.sublist (List.sublist_append_left _ _)
  occupied slot hs := h.occupied slot (List.mem_append_left _ hs)

theorem Scheduled.next {v : View} {queue : List Nat} (h : v.world.Scheduled (v.slot :: queue))
    (coin : Coin) (budget : Nat) : (v.turn coin budget).view.world.Scheduled queue where
  distinct := h.distinct.of_cons
  occupied slot hs := by
    have hne : slot ≠ v.slot := by
      rintro rfl
      exact (List.nodup_cons.mp h.distinct).1 hs
    obtain ⟨c, hc⟩ := Option.isSome_iff_exists.mp (h.occupied slot (List.mem_cons_of_mem _ hs))
    rw [((v.turn_ends coin budget).bystander hne hc).2]
    rfl

/-! ### One turn after another -/

variable {round budget : Nat} {coin : Coin} {v : View} {queue : List Nat}

theorem playSlots_cons_of_error {fault : Fault}
    (hf : (v.turn coin budget).result = .error fault) :
    playSlots round budget (v.slot :: queue) v.world coin =
      ⟨(v.turn coin budget).view.world, (v.turn coin budget).coin, [], some fault⟩ := by
  simp only [playSlots, playSlot, view_eq_ok v.occupied, hf]

theorem playSlots_cons_of_ok {report : TurnReport}
    (hr : (v.turn coin budget).result = .ok report) :
    playSlots round budget (v.slot :: queue) v.world coin =
      let rest :=
        playSlots round budget queue (v.turn coin budget).view.world (v.turn coin budget).coin
      { rest with
        events := (v.turn coin budget).view.events round v.position report ++ rest.events } := by
  simp only [playSlots, playSlot, view_eq_ok v.occupied, hr]

/-- Induction along the turns of a queue: it is played out, its first turn fails, or its first
turn succeeds and the rest is played on the board that this turn leaves. -/
theorem Scheduled.induction (budget : Nat) {motive : (queue : List Nat) → (w : World) → Coin →
      w.Scheduled queue → Prop}
    (nil : ∀ w coin h, motive [] w coin h)
    (error : ∀ (v : View) queue coin fault h, (v.turn coin budget).result = .error fault →
      motive (v.slot :: queue) v.world coin h)
    (ok : ∀ (v : View) queue coin report (h : v.world.Scheduled (v.slot :: queue)),
      (v.turn coin budget).result = .ok report →
      motive queue (v.turn coin budget).view.world (v.turn coin budget).coin (h.next coin budget) →
      motive (v.slot :: queue) v.world coin h)
    (queue : List Nat) (w : World) (coin : Coin) (h : w.Scheduled queue) :
    motive queue w coin h := by
  induction queue generalizing w coin with
  | nil => exact nil w coin h
  | cons slot queue ih =>
    obtain ⟨v, rfl, rfl⟩ : ∃ v : View, v.world = w ∧ v.slot = slot :=
      ⟨⟨w, slot, h.occupied slot List.mem_cons_self⟩, rfl, rfl⟩
    cases hresult : (v.turn coin budget).result with
    | error fault => exact error v queue coin fault h hresult
    | ok report => exact ok v queue coin report h hresult (ih _ _ (h.next coin budget))

theorem playSlots_append {w : World} {earlier later : List Nat}
    (h : (playSlots round budget earlier w coin).fault? = none) :
    playSlots round budget (earlier ++ later) w coin =
      (playSlots round budget earlier w coin).andThen
        (playSlots round budget later (playSlots round budget earlier w coin).world
          (playSlots round budget earlier w coin).coin) := by
  induction earlier generalizing w coin with
  | nil => rfl
  | cons slot earlier ih =>
    simp only [List.cons_append, playSlots] at h ⊢
    split at h
    · next fault hf =>
      rw [hf] at h
      cases h
    · next hnone =>
      simp only [ih h, Progress.andThen, List.append_assoc]

theorem sameShape_playSlots {w : World} (h : w.Scheduled queue) :
    w.SameShape (playSlots round budget queue w coin).world := by
  induction queue, w, coin, h using Scheduled.induction budget with
  | nil w coin h => exact .refl _
  | error v queue coin fault h hf =>
    rw [playSlots_cons_of_error hf]
    exact (v.turn_ends coin budget).shape
  | ok v queue coin report h hr ih =>
    rw [playSlots_cons_of_ok hr]
    exact (v.turn_ends coin budget).shape.trans ih

end World

/-! ### The round of a simulation -/

namespace Simulation

def progress (s : Simulation) : Progress :=
  s.world.playRound (s.round + 1) s.settings.stepBudget s.coin

def progressOf (s : Simulation) (earlier : List Nat) : Progress :=
  World.playSlots (s.round + 1) s.settings.stepBudget earlier s.world s.coin

theorem step_world (s : Simulation) : s.step.simulation.world = s.progress.world := by
  simp only [step]
  split <;> rfl

theorem step_events (s : Simulation) : s.step.events = s.progress.events := by
  simp only [step]
  split <;> rfl

theorem step_eq_error_iff {s : Simulation} {fault : Fault} :
    s.step.result = .error fault ↔ s.progress.fault? = some fault := by
  unfold progress
  simp only [step]
  split
  · next f hf => simp [hf]
  · next hf => simp [hf]

theorem step_eq_ok_iff {s : Simulation} {report : RoundReport} :
    s.step.result = .ok report ↔ s.progress.fault? = none ∧
      ⟨s.round + 1, s.progress.events, s.progress.world.census⟩ = report := by
  unfold progress
  simp only [step]
  split
  · next f hf => simp [hf]
  · next hf => simp [hf]

end Simulation

end Vivarium
