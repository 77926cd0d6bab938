import Vivarium.Blueprint.Decode
import Vivarium.CommandLine
import Vivarium.Json.Codec
import Vivarium.Log

/-! One run of the command: from its arguments and the files it may read to what it prints, what it
logs and how it ends. -/
namespace Vivarium

abbrev Files := String → Except ReadFault ByteArray

structure Session where
  exitCode : Nat
  output : String
  log : List Log.Record

namespace Session

open CommandLine (Options)

def refused : Session := ⟨2, "", []⟩

def optionHelp : List (String × String) :=
  [("  -s, --scenario <SCENARIO>", "Scenario file (TOML); runs the built-in 8x8 demo when omitted"),
    ("  -n, --rounds <ROUNDS>", "Number of rounds (overrides the scenario)"),
    ("      --seed <SEED>", "Seed for if_random (overrides the scenario)"),
    ("      --step-budget <STEP_BUDGET>",
      "Instructions a creature may fetch in one turn (overrides the scenario)"),
    ("      --format <FORMAT>", "Output format [default: text] [possible values: text, json]"),
    ("      --list-species", "Print the built-in species programs and exit"),
    ("  -h, --help", "Print help")]

/-- An option of the help, with its explanation two blanks behind the widest option. -/
def helpLine (option explanation : String) : String :=
  option ++ String.ofList (List.replicate (35 - option.length) ' ') ++ explanation ++ "\n"

def usage : String :=
  "Run a Darwin world and print the board after every round\n\nUsage: darwin [OPTIONS]\n\n" ++
    "Options:\n" ++ String.join (optionHelp.map fun (option, text) => helpLine option text)

def listing : String :=
  String.join (Species.library.map fun (name, s) => s!"{name} ({s.symbol})\n{s.listing}\n")

/-- A scenario from a file, or the demonstration, and what is logged of its loading. -/
def load (files : Files) : Option String → Except Fault (Scenario × List Log.Record)
  | none => Scenario.demo.map (·, [])
  | some path =>
    match files path with
    | .error cause => .error (.unreadable cause)
    | .ok bytes =>
      match String.fromUTF8? bytes with
      | none => .error (.unreadable .notText)
      | some text =>
        (Scenario.ofText text).map fun s =>
          (s, [Log.loaded s.world.rows s.world.cols s.kinds.length s.world.count])

def observationText (o : Observation) : String := s!"Turn = {o.round}.\n{o.world.board}\n"

/-- The JSON document of a run that began with `first`. -/
def document (first : Simulation) (run : RunEnd) : Json :=
  .object
    [("seed", .nat first.settings.seed), ("rounds", .nat first.settings.rounds),
      ("initial_board", .string first.world.board),
      ("final_board", .string run.simulation.world.board),
      ("reports", .array (run.reports.map RoundReport.toJson))]

/-- Text shows every board that was reached; a document is only written of a run that succeeds. -/
def play (format : CommandLine.Format) (first : Simulation) : Session :=
  let run := first.run first.settings.rounds
  let log := run.rounds.flatMap Log.ofRound
  let shown :=
    match format with
    | .text => String.join (run.observed.map observationText)
    | .json => if run.fault?.isNone then (document first run).text ++ "\n" else ""
  match run.fault? with
  | none => ⟨0, shown, log⟩
  | some fault => ⟨1, shown, log ++ [Log.fault fault]⟩

def perform (files : Files) (o : Options) : Session :=
  if o.listSpecies then ⟨0, listing, []⟩
  else
    match load files o.scenario? with
    | .error fault => ⟨1, "", [Log.fault fault]⟩
    | .ok (scenario, loading) =>
      match { scenario with settings := o.apply scenario.settings }.simulation with
      | .error fault => ⟨1, "", loading ++ [Log.fault fault]⟩
      | .ok first =>
        let played := play o.format first
        { played with log := loading ++ Log.starting first.settings :: played.log }

def run (files : Files) (args : List String) : Session :=
  match CommandLine.read args with
  | none => refused
  | some .help => ⟨0, usage, []⟩
  | some (.perform options) => perform files options

end Session

end Vivarium
