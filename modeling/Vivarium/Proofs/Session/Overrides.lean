import Vivarium.Proofs.Assembly.Grammar
import Vivarium.Proofs.Run.ErrorContract
import Vivarium.Proofs.Run.Progress
import Vivarium.Proofs.Scenario.Acceptance
import Vivarium.Session

/-! Options against the settings of a file. They replace what the file says, but not before the file
has been loaded, and loading already refuses a file for its step budget. -/
namespace Vivarium

/-! ### Faults told apart by what is logged -/

theorem ConfigFault.eq_zeroStepBudget {cause : ConfigFault}
    (h : cause.message = zeroStepBudget.message) : cause = .zeroStepBudget := by
  have hletter := congrArg (fun s => s.toList[1]?) h
  unfold message at hletter
  cases cause with
  | zeroStepBudget => rfl
  | ambiguousSpecies | missingSymbol => simp [toString] at hletter

theorem Fault.message_config (cause : ConfigFault) :
    (Fault.config cause).message = "Invalid config: " ++ cause.message := rfl

theorem Fault.eq_zeroStepBudget {fault : Fault}
    (h : fault.message = (Fault.config .zeroStepBudget).message) :
    fault = .config .zeroStepBudget := by
  rw [message_config] at h
  have hletter := congrArg (fun s => s.toList[2]?) h
  unfold message at hletter
  cases fault with
  | config cause =>
    rw [message_config, String.append_right_inj] at h
    rw [ConfigFault.eq_zeroStepBudget h]
  | _ => simp [toString] at hletter

theorem Log.fault_eq_iff {fault : Fault} :
    Log.fault fault = Log.fault (.config .zeroStepBudget) ↔ fault = .config .zeroStepBudget := by
  constructor
  · intro h
    exact Fault.eq_zeroStepBudget (congrArg Log.Record.message h)
  · rintro rfl
    rfl

theorem Log.level_ne_error_of_mem_ofRound {e : RoundEnd} {r : Log.Record} (h : r ∈ Log.ofRound e) :
    r.level ≠ .error := by
  have hturns : ∀ r ∈ e.events.filterMap Log.ofEvent?, r.level ≠ .error := by
    intro r hr
    obtain ⟨event, _, hevent⟩ := List.mem_filterMap.mp hr
    cases event with
    | turnTaken =>
      cases hevent
      nofun
    | converted => cases hevent
  unfold Log.ofRound at h
  split at h
  · exact hturns r h
  · rcases List.mem_append.mp h with hturn | hround
    · exact hturns r hturn
    · rw [List.mem_singleton.mp hround]
      nofun

/-! ### A session on a blueprint -/

/-- At this path there is a text that reads as the blueprint. -/
def Files.Hold (files : Files) (path : String) (b : Blueprint) : Prop :=
  ∃ bytes text, files path = .ok bytes ∧ String.fromUTF8? bytes = some text ∧
    Blueprint.ofText? text = some b

namespace CommandLine.Options

/-- The same request, but for the settings, which are left to the scenario. -/
def plain (o : Options) : Options := { o with rounds? := none, seed? := none, stepBudget? := none }

theorem apply_plain (o : Options) (s : Settings) : o.plain.apply s = s := rfl

end CommandLine.Options

open CommandLine (Options)

def Blueprint.overridden (b : Blueprint) (o : Options) : Blueprint :=
  { b with settings := o.apply b.settings }

namespace Session

def proceed (o : Options) (scenario : Scenario) (loading : List Log.Record) : Session :=
  match { scenario with settings := o.apply scenario.settings }.simulation with
  | .error fault => ⟨1, "", loading ++ [Log.fault fault]⟩
  | .ok first =>
    let played := play o.format first
    { played with log := loading ++ Log.starting first.settings :: played.log }

/-- A session on a file that reads as the blueprint. -/
def ofBlueprint (o : Options) (b : Blueprint) : Session :=
  match b.build with
  | .error fault => ⟨1, "", [Log.fault fault]⟩
  | .ok s => proceed o s [Log.loaded s.world.rows s.world.cols s.kinds.length s.world.count]

theorem run_eq_ofBlueprint {files : Files} {args : List String} {o : Options} {path : String}
    {b : Blueprint} (hargs : CommandLine.read args = some (.perform o))
    (hlist : o.listSpecies = false) (hpath : o.scenario? = some path) (hfile : files.Hold path b) :
    run files args = ofBlueprint o b := by
  obtain ⟨bytes, text, hbytes, htext, hread⟩ := hfile
  have hload : load files o.scenario? = b.build.map fun s =>
      (s, [Log.loaded s.world.rows s.world.cols s.kinds.length s.world.count]) := by
    simp only [load, hpath, hbytes, htext, Scenario.ofText_eq_build hread]
  have hrun : run files args = perform files o := by
    simp only [run, hargs]
  rw [hrun, perform, hload, hlist, ofBlueprint]
  cases b.build with
  | error fault => rfl
  | ok scenario => rfl

/-- What can be seen of a session from outside: how it ends, what it prints and the errors it
logs. -/
structure Outcome where
  exitCode : Nat
  output : String
  errors : List Log.Record
  deriving DecidableEq, Repr

def outcome (s : Session) : Outcome :=
  ⟨s.exitCode, s.output, s.log.filter fun r => r.level = .error⟩

def Outcome.starved : Outcome := ⟨1, "", [Log.fault (.config .zeroStepBudget)]⟩

end Session

/-! ### Where the step budget is checked -/

theorem Assembly.unrecognised_of_assembleLines {number : Nat} {ls : List (List Char)}
    {fault : Fault} (h : assembleLines number ls = .error fault) :
    ∃ line code, fault = .unrecognised line code := by
  induction ls generalizing number with
  | nil => cases h
  | cons line ls ih =>
    unfold assembleLines at h
    split at h
    · exact ih h
    · split at h
      · cases h
        exact ⟨_, _, rfl⟩
      · exact ih (map_cons_eq_error_iff.mp h)

namespace Blueprint

variable {b : Blueprint} {scenario : Scenario}

theorem build_eq_zeroStepBudget_iff :
    b.build = .error (.config .zeroStepBudget) ↔ b.settings.stepBudget = 0 := by
  rw [build_eq_error_iff]
  constructor
  · intro h
    cases h with
    | settings hzero => exact hzero
    | species _ _ _ hbarred =>
      cases hbarred with
      | denied hdenied =>
        cases hdenied with
        | garbled hrefused =>
          obtain ⟨_, _, hfault⟩ := Assembly.unrecognised_of_assembleLines hrefused
          cases hfault
        | unfit _ hunfit => cases hunfit
    | creature _ _ _ _ _ hbarred => cases hbarred
  · intro hzero
    exact .settings hzero

theorem settings_of_build (h : b.build = .ok scenario) : scenario.settings = b.settings := by
  obtain ⟨_, _, hrealises⟩ := realises_of_build h
  exact hrealises.settings

theorem sound_of_build (h : b.build = .ok scenario) : scenario.world.All Creature.Sound := by
  have hchecked := (populated_of_build h).1.mono (checked_of_build h)
  exact hchecked.all fun _ heading hkind => Creature.sound_spawn hkind heading

theorem build_with_settings {settings : Settings} (hb : 1 ≤ b.settings.stepBudget)
    (hsettings : 1 ≤ settings.stepBudget) :
    { b with settings }.build = b.build.map fun scenario => { scenario with settings } := by
  have hmap : ∀ result : Except Fault Scenario,
      (result.map fun scenario => { scenario with settings }) =
        (fun scenario : Scenario => { scenario with settings }) <$> result := fun _ => rfl
  unfold build
  rw [hmap, Settings.check_eq_ok_iff.mpr hb, Settings.check_eq_ok_iff.mpr hsettings]
  simp only [map_bind]
  rfl

end Blueprint

theorem Simulation.fault_ne_config {s : Simulation} (h : s.world.All Creature.Sound) {rounds : Nat}
    {fault : Fault} (hf : (s.run rounds).fault? = some fault) (cause : ConfigFault) :
    fault ≠ .config cause := by
  obtain ⟨k, _, hfails⟩ := run_fault?_eq_some_iff.mp hf
  obtain ⟨_, _, _, hcauses⟩ := (errorContract_of_sound h).faults k fault hfails.last
  cases hcauses <;> nofun

namespace Session

variable {o : Options} {b : Blueprint} {scenario : Scenario}

theorem errors_of_rounds (rounds : List RoundEnd) :
    (rounds.flatMap Log.ofRound).filter (fun r => r.level = .error) = [] := by
  rw [List.filter_eq_nil_iff]
  intro r hr
  obtain ⟨e, _, hr⟩ := List.mem_flatMap.mp hr
  simpa using Log.level_ne_error_of_mem_ofRound hr

theorem outcome_play_ne_starved {first : Simulation} (h : first.world.All Creature.Sound)
    (format : CommandLine.Format) : (play format first).outcome ≠ .starved := by
  intro hstarved
  cases hfault : (first.run first.settings.rounds).fault? with
  | none =>
    have hcode := congrArg Outcome.exitCode hstarved
    simp only [play, hfault, outcome, Outcome.starved] at hcode
    cases hcode
  | some fault =>
    have herrors := congrArg Outcome.errors hstarved
    simp only [play, hfault, outcome, List.filter_append, errors_of_rounds] at herrors
    have hlog : Log.fault fault = Log.fault (.config .zeroStepBudget) :=
      List.singleton_inj.mp herrors
    exact Simulation.fault_ne_config h hfault _ (Log.fault_eq_iff.mp hlog)

theorem outcome_proceed (o : Options) (scenario : Scenario) (rows cols species creatures : Nat) :
    (proceed o scenario [Log.loaded rows cols species creatures]).outcome =
      (proceed o scenario []).outcome := by
  unfold proceed
  split <;> rfl

theorem proceed_of_zero (h : (o.apply scenario.settings).stepBudget = 0) :
    (proceed o scenario []).outcome = .starved := by
  have hsimulation : { scenario with settings := o.apply scenario.settings }.simulation =
      .error (.config .zeroStepBudget) := by
    rw [Scenario.simulation, Simulation.startSeeded, Simulation.start,
      Settings.check_eq_error_iff.mpr ⟨h, rfl⟩]
    rfl
  rw [proceed, hsimulation]
  rfl

theorem proceed_of_pos (h : 1 ≤ (o.apply scenario.settings).stepBudget) :
    ∃ first : Simulation, first.world = scenario.world ∧
      (proceed o scenario []).outcome = (play o.format first).outcome := by
  obtain ⟨first, hsimulation, hworld⟩ : ∃ first : Simulation,
      { scenario with settings := o.apply scenario.settings }.simulation = .ok first ∧
        first.world = scenario.world := by
    rw [Scenario.simulation, Simulation.startSeeded, Simulation.start,
      Settings.check_eq_ok_iff.mpr h]
    exact ⟨_, rfl, rfl⟩
  refine ⟨first, hworld, ?_⟩
  rw [proceed, hsimulation]
  rfl

theorem ofBlueprint_of_error {fault : Fault} (h : b.build = .error fault) :
    ofBlueprint o b = ⟨1, "", [Log.fault fault]⟩ := by
  rw [ofBlueprint, h]

theorem ofBlueprint_of_ok (h : b.build = .ok scenario) :
    (ofBlueprint o b).outcome = (proceed o scenario []).outcome := by
  rw [ofBlueprint, h]
  exact outcome_proceed o scenario _ _ _ _

theorem outcome_ofBlueprint_eq_starved_iff : (ofBlueprint o b).outcome = .starved ↔
    b.settings.stepBudget = 0 ∨
      (o.apply b.settings).stepBudget = 0 ∧ ∃ scenario, b.build = .ok scenario := by
  rw [← Blueprint.build_eq_zeroStepBudget_iff]
  cases hbuild : b.build with
  | error fault =>
    rw [ofBlueprint_of_error hbuild]
    constructor
    · intro h
      have hlog := List.singleton_inj.mp (congrArg Outcome.errors h)
      rw [Log.fault_eq_iff.mp hlog]
      exact Or.inl rfl
    · intro h
      obtain h | ⟨_, _, h⟩ := h
      · cases h
        rfl
      · cases h
  | ok scenario =>
    rw [ofBlueprint_of_ok hbuild, ← Blueprint.settings_of_build hbuild]
    constructor
    · intro h
      refine Or.inr ⟨?_, scenario, rfl⟩
      by_contra hpos
      obtain ⟨first, hworld, hplayed⟩ := proceed_of_pos (Nat.one_le_iff_ne_zero.mpr hpos)
      have hsound := Blueprint.sound_of_build hbuild
      rw [← hworld] at hsound
      exact outcome_play_ne_starved hsound _ (hplayed.symm.trans h)
    · intro h
      obtain h | ⟨hzero, _⟩ := h
      · cases h
      · exact proceed_of_zero hzero

/-- Where neither budget is zero, options do what they would do in the file. -/
theorem ofBlueprint_overridden (hb : 1 ≤ b.settings.stepBudget)
    (ho : 1 ≤ (o.apply b.settings).stepBudget) :
    ofBlueprint o b = ofBlueprint o.plain (b.overridden o) := by
  rw [ofBlueprint, ofBlueprint, Blueprint.overridden, Blueprint.build_with_settings hb ho]
  cases hbuild : b.build with
  | error fault => rfl
  | ok scenario =>
    rw [← Blueprint.settings_of_build hbuild]
    rfl

theorem outcome_overridden_iff :
    (ofBlueprint o b).outcome = (ofBlueprint o.plain (b.overridden o)).outcome ↔
      ((b.settings.stepBudget = 0 ↔ (o.apply b.settings).stepBudget = 0) ∨
        ∃ scenario, b.build = .ok scenario) := by
  have hwritten : (ofBlueprint o.plain (b.overridden o)).outcome = .starved ↔
      (o.apply b.settings).stepBudget = 0 := by
    rw [outcome_ofBlueprint_eq_starved_iff, CommandLine.Options.apply_plain]
    exact or_iff_left_of_imp And.left
  by_cases hoption : (o.apply b.settings).stepBudget = 0
  · rw [hwritten.mpr hoption, outcome_ofBlueprint_eq_starved_iff]
    simp [hoption]
  by_cases hfile : b.settings.stepBudget = 0
  · have hstarved := (outcome_ofBlueprint_eq_starved_iff (o := o)).mpr (Or.inl hfile)
    have hrefused := Blueprint.build_eq_zeroStepBudget_iff.mpr hfile
    rw [hstarved, eq_comm, hwritten]
    simp [hoption, hfile, hrefused]
  · have hsame := ofBlueprint_overridden (Nat.one_le_iff_ne_zero.mpr hfile)
      (Nat.one_le_iff_ne_zero.mpr hoption)
    rw [hsame]
    simp [hoption, hfile]

end Session

/-- Options on a file do what they would do if they were written into it, but for one thing: the
file is checked as it stands before they replace anything. So they fail to override a step budget of
zero, and a budget of zero that they ask for goes unnoticed where the file is refused for something
else. -/
theorem options_override_files_that_load (o : Options) (b : Blueprint) :
    (∀ files args path, CommandLine.read args = some (.perform o) → o.listSpecies = false →
      o.scenario? = some path → Files.Hold files path b →
      Session.run files args = Session.ofBlueprint o b) ∧
    ((Session.ofBlueprint o b).outcome =
        (Session.ofBlueprint o.plain (b.overridden o)).outcome ↔
      ((b.settings.stepBudget = 0 ↔ (o.apply b.settings).stepBudget = 0) ∨
        ∃ scenario, b.build = .ok scenario)) ∧
    (b.settings.stepBudget = 0 → (Session.ofBlueprint o b).outcome = .starved) := by
  refine ⟨?_, Session.outcome_overridden_iff, ?_⟩
  · intro files args path hargs hlist hpath hfile
    exact Session.run_eq_ofBlueprint hargs hlist hpath hfile
  · intro hzero
    exact Session.outcome_ofBlueprint_eq_starved_iff.mpr (Or.inl hzero)

def Files.containing (text : String) : Files := fun _ => .ok text.toUTF8

theorem Files.containing_hold {text : String} {b : Blueprint}
    (h : Blueprint.ofText? text = some b) (path : String) : (containing text).Hold path b := by
  have htext : String.fromUTF8? text.toUTF8 = some text := by
    rw [String.fromUTF8?, String.toUTF8_eq_toByteArray, dif_pos text.isValidUTF8]
    rfl
  exact ⟨_, _, rfl, htext, h⟩

def fiveSteps (path : String) : Options := { scenario? := some path, stepBudget? := some 5 }

/-- Food on its own for two rounds. In the second it fetches the jump to the top as well. -/
def bed (stepBudget : Nat) : Blueprint where
  rows := 1
  cols := 1
  settings := { rounds := 2, stepBudget }
  species := [⟨none, some "food", none⟩]
  creatures := [⟨"f", ⟨0, 0⟩, .north⟩]

def bedText (stepBudget : String) : String :=
  "rows = 1\ncols = 1\n[simulation]\nrounds = 2\nstep_budget = " ++ stepBudget ++
    "\n[[species]]\nlibrary = \"food\"\n" ++
    "[[creature]]\nspecies = \"f\"\nrow = 0\ncol = 0\nfacing = \"north\"\n"

/-- A budget of one step ends the run in its second round, unless an option asks for more. -/
theorem short_budget_is_overridden :
    (Session.run (.containing (bedText "1")) ["--scenario", "bed.toml"]).outcome =
        ⟨1, "Turn = 0.\n  0\n0 f\n\nTurn = 1.\n  0\n0 f\n\n",
          [Log.fault (.noProgress "f" 1)]⟩ ∧
      (Session.run (.containing (bedText "1"))
          ["--scenario", "bed.toml", "--step-budget", "5"]).outcome =
        (Session.run (.containing (bedText "5")) ["--scenario", "bed.toml"]).outcome ∧
      (Session.run (.containing (bedText "5")) ["--scenario", "bed.toml"]).outcome =
        ⟨0, "Turn = 0.\n  0\n0 f\n\nTurn = 1.\n  0\n0 f\n\nTurn = 2.\n  0\n0 f\n\n", []⟩ := by
  obtain ⟨hoptions, hsame, _⟩ := options_override_files_that_load (fiveSteps "bed.toml") (bed 1)
  obtain ⟨hplain, _⟩ := options_override_files_that_load (fiveSteps "bed.toml").plain (bed 5)
  obtain ⟨hshort, _⟩ := options_override_files_that_load (fiveSteps "bed.toml").plain (bed 1)
  have hone : Blueprint.ofText? (bedText "1") = some (bed 1) := by decide +kernel
  have hfive : Blueprint.ofText? (bedText "5") = some (bed 5) := by decide +kernel
  have hargs : CommandLine.read ["--scenario", "bed.toml"] =
      some (.perform (fiveSteps "bed.toml").plain) := by decide +kernel
  have hflagged : CommandLine.read ["--scenario", "bed.toml", "--step-budget", "5"] =
      some (.perform (fiveSteps "bed.toml")) := by decide +kernel
  rw [hshort _ _ _ hargs rfl rfl (Files.containing_hold hone _),
    hoptions _ _ _ hflagged rfl rfl (Files.containing_hold hone _),
    hplain _ _ _ hargs rfl rfl (Files.containing_hold hfive _)]
  exact ⟨by decide +kernel, hsame.mpr (Or.inl (by decide)), by decide +kernel⟩

def still (stepBudget : Nat) : Blueprint where
  rows := 1
  cols := 1
  settings := { rounds := 0, stepBudget }
  species := []
  creatures := []

def stillText (stepBudget : String) : String :=
  "rows = 1\ncols = 1\n[simulation]\nrounds = 0\nstep_budget = " ++ stepBudget ++ "\n"

/-- No option helps a file whose own step budget is zero, although with the option's budget written
into it, it would be accepted. -/
theorem starved_file_stays_starved :
    CommandLine.read ["--scenario", "still.toml", "--step-budget", "5"] =
        some (.perform (fiveSteps "still.toml")) ∧
      CommandLine.read ["--scenario", "still.toml"] =
        some (.perform (fiveSteps "still.toml").plain) ∧
      (Files.containing (stillText "0")).Hold "still.toml" (still 0) ∧
      (Files.containing (stillText "5")).Hold "still.toml"
        ((still 0).overridden (fiveSteps "still.toml")) ∧
      (Session.run (.containing (stillText "0"))
          ["--scenario", "still.toml", "--step-budget", "5"]).outcome =
        .starved ∧
      (Session.run (.containing (stillText "5")) ["--scenario", "still.toml"]).outcome =
        ⟨0, "Turn = 0.\n  0\n0 -\n\n", []⟩ := by
  have hargs : CommandLine.read ["--scenario", "still.toml", "--step-budget", "5"] =
      some (.perform (fiveSteps "still.toml")) := by decide +kernel
  have hargs' : CommandLine.read ["--scenario", "still.toml"] =
      some (.perform (fiveSteps "still.toml").plain) := by decide +kernel
  have hzero : Blueprint.ofText? (stillText "0") = some (still 0) := by decide +kernel
  have hfive : Blueprint.ofText? (stillText "5") = some (still 5) := by decide +kernel
  refine ⟨hargs, hargs', Files.containing_hold hzero _, Files.containing_hold hfive _, ?_, ?_⟩
  · rw [Session.run_eq_ofBlueprint hargs rfl rfl (Files.containing_hold hzero _)]
    exact Session.outcome_ofBlueprint_eq_starved_iff.mpr (Or.inl rfl)
  · rw [Session.run_eq_ofBlueprint hargs' rfl rfl (Files.containing_hold hfive _)]
    decide +kernel

end Vivarium
