import Vivarium.Proofs.Json.RoundTrip
import Vivarium.Proofs.Run.Course
import Vivarium.Proofs.Run.Identity
import Vivarium.Proofs.Session.Overrides
import Vivarium.Proofs.World.Glyphs

/-! The two formats of the output. Text shows the boards of a run as they are reached, a document
is written when all is over; both tell of one and the same run. -/
namespace Vivarium

open CommandLine (Options)

namespace Scenario

variable {scenario : Scenario}

theorem Provided.legible (h : scenario.Provided) {w : World} (hw : scenario.LeadsTo w) :
    w.Legible := by
  obtain ⟨b, hb⟩ := h.exists_build
  intro slot c hc
  exact (Blueprint.checked_of_build hb _ (h.kind_mem hw slot c hc)).drawable

theorem start_of_simulation {first : Simulation} (h : scenario.simulation = .ok first) :
    first =
      ⟨scenario.world, .seeded (UInt64.ofNat scenario.settings.seed), scenario.settings, 0⟩ := by
  obtain ⟨_, _, hstart⟩ := Except.map_eq_ok_iff.mp h
  exact hstart.symm

end Scenario

/-- The text of the first boards of a run, up to the one after some rounds. -/
def Simulation.transcript (s : Simulation) (rounds : Nat) : String :=
  String.join ((List.range (rounds + 1)).map fun k =>
    s!"Turn = {k}.\n{(s.after k).world.board}\n")

theorem Simulation.transcript_eq {s : Simulation} (h : s.round = 0) (rounds : Nat) :
    String.join ((s.observations rounds).map Session.observationText) = s.transcript rounds := by
  unfold observations transcript
  rw [List.map_map]
  congr 2
  funext k
  rw [Function.comp_apply, Session.observationText, observe, s.round_after, h, Nat.zero_add]

/-! ### The document -/

theorem Position.natural_toJson (p : Position) : p.toJson.Natural := by simp [toJson]

theorem Event.natural_toJson (e : Event) : e.toJson.Natural := by
  cases e with
  | turnTaken => simp [toJson, Position.natural_toJson, Heading.toJson, Act.toJson]
  | converted => simp [toJson, Position.natural_toJson]

theorem Census.natural_toJson (c : Census) : c.toJson.Natural := by
  rw [toJson, Json.natural_object_iff]
  intro field hfield
  obtain ⟨⟨symbol, n⟩, _, rfl⟩ := List.mem_map.mp hfield
  exact .nat n

theorem RoundReport.natural_toJson (r : RoundReport) : r.toJson.Natural := by
  simp [toJson, Event.natural_toJson, Census.natural_toJson]

namespace Session

theorem natural_document (first : Simulation) (run : RunEnd) : (document first run).Natural := by
  simp [document, RoundReport.natural_toJson]

theorem read?_document (first : Simulation) (run : RunEnd) :
    Json.read? ((document first run).text ++ "\n") = some (document first run) :=
  Json.read?_text_append (natural_document first run) (by simp [Json.isSpace])

/-! ### A session from outside -/

theorem provided_of_load {files : Files} {path? : Option String} {scenario : Scenario}
    {loading : List Log.Record} (h : load files path? = .ok (scenario, loading)) :
    scenario.Provided ∧ loading.filter (fun r => r.level = .error) = [] := by
  unfold load at h
  split at h
  · obtain ⟨demo, hdemo, hpair⟩ := Except.map_eq_ok_iff.mp h
    cases hpair
    exact ⟨.demo hdemo, rfl⟩
  · split at h
    · cases h
    · split at h
      · cases h
      · obtain ⟨read, hread, hpair⟩ := Except.map_eq_ok_iff.mp h
        cases hpair
        exact ⟨.read hread, rfl⟩

section

variable {files : Files} {args : List String} {o : Options} {scenario : Scenario}
  {loading : List Log.Record} {first : Simulation}

theorem run_of_load (hargs : CommandLine.read args = some (.perform o))
    (hlist : o.listSpecies = false) (hload : load files o.scenario? = .ok (scenario, loading))
    (hfirst : { scenario with settings := o.apply scenario.settings }.simulation = .ok first) :
    run files args =
      { play o.format first with
        log := loading ++ Log.starting first.settings :: (play o.format first).log } := by
  simp only [run, hargs, perform, hlist, hload, hfirst, Bool.false_eq_true, if_false]

/-- From outside, nothing is seen of a session that loads a scenario but how it is played. -/
theorem outcome_run_of_load (hargs : CommandLine.read args = some (.perform o))
    (hlist : o.listSpecies = false) (hload : load files o.scenario? = .ok (scenario, loading))
    (hfirst : { scenario with settings := o.apply scenario.settings }.simulation = .ok first) :
    (run files args).outcome = (play o.format first).outcome := by
  obtain ⟨_, hloading⟩ := provided_of_load hload
  rw [run_of_load hargs hlist hload hfirst]
  simp only [outcome, List.filter_append, hloading]
  rfl

theorem legible_after (hload : load files o.scenario? = .ok (scenario, loading))
    (hfirst : { scenario with settings := o.apply scenario.settings }.simulation = .ok first)
    (k : Nat) : (first.after k).world.Legible := by
  obtain ⟨hprovided, _⟩ := provided_of_load hload
  refine hprovided.legible ⟨first, ?_, first.reaches_after k⟩
  rw [Scenario.start_of_simulation hfirst]

end

variable {first : Simulation} {fault? : Option Fault} {k : Nat} {last : Simulation}

theorem log_play (format other : CommandLine.Format) (first : Simulation) :
    (play other first).log = (play format first).log := by
  simp only [play]
  split <;> rfl

theorem outcome_play (format : CommandLine.Format) (first : Simulation)
    (h : (first.run first.settings.rounds).fault? = fault?) :
    (play format first).outcome =
      ⟨if fault?.isSome then 1 else 0, (play format first).output,
        fault?.toList.map Log.fault⟩ := by
  simp only [outcome, play, h]
  cases fault? with
  | none =>
    simp only [errors_of_rounds]
    rfl
  | some fault =>
    simp only [List.filter_append, errors_of_rounds]
    rfl

theorem output_play_text (hround : first.round = 0)
    (h : first.Course k last fault? (first.run first.settings.rounds)) :
    (play .text first).output = first.transcript k := by
  rw [← Simulation.transcript_eq hround, ← h.observed]
  simp only [play]
  split <;> rfl

theorem output_play_json (h : first.Course k last fault? (first.run first.settings.rounds)) :
    (play .json first).output =
      if fault?.isNone then (document first (first.run first.settings.rounds)).text ++ "\n"
      else "" := by
  rw [← h.fault]
  simp only [play]
  split <;> rfl

end Session

/-- Arguments that differ in the format alone lead to the same log. If the run succeeds, the text is
that of the boards before its first round and after each round. What is printed as JSON reads as a
document with the first of these boards, the last one, and a report of each round: it has the number
of the round and counts what the board after it shows. If a round fails, both sessions end with its
fault; the text has the boards before that round, and the document is not written. -/
theorem formats_tell_the_same_run {files : Files} {o : Options} {textArgs jsonArgs : List String}
    {scenario : Scenario} {loading : List Log.Record} {first : Simulation}
    (htext : CommandLine.read textArgs = some (.perform o)) (hformat : o.format = .text)
    (hjson : CommandLine.read jsonArgs = some (.perform { o with format? := some .json }))
    (hlist : o.listSpecies = false)
    (hload : Session.load files o.scenario? = .ok (scenario, loading))
    (hfirst : { scenario with settings := o.apply scenario.settings }.simulation = .ok first) :
    first.settings = o.apply scenario.settings ∧
    (Session.run files jsonArgs).log = (Session.run files textArgs).log ∧
    ((first.run first.settings.rounds).fault? = none →
      (Session.run files textArgs).outcome = ⟨0, first.transcript first.settings.rounds, []⟩ ∧
      (∃ document, (Session.run files jsonArgs).outcome = ⟨0, document.text ++ "\n", []⟩ ∧
        Json.read? (document.text ++ "\n") = some document ∧
        document = .object
          [("seed", .nat first.settings.seed), ("rounds", .nat first.settings.rounds),
            ("initial_board", .string (first.after 0).world.board),
            ("final_board", .string (first.after first.settings.rounds).world.board),
            ("reports",
              .array ((first.run first.settings.rounds).reports.map RoundReport.toJson))]) ∧
      (first.run first.settings.rounds).reports.length = first.settings.rounds ∧
      ∀ k report, (first.run first.settings.rounds).reports[k]? = some report →
        report.round = k + 1 ∧
          report.toJson = .object
            [("round", .nat (k + 1)), ("events", .array (report.events.map Event.toJson)),
              ("census", .object (report.census.map fun (symbol, n) => (symbol, .nat n)))] ∧
          Census.Counts report.census (shownSymbols (first.after (k + 1)).world.board)) ∧
    ∀ fault, (first.run first.settings.rounds).fault? = some fault →
      ∃ k < first.settings.rounds, first.FailsAfter k fault ∧
        (Session.run files textArgs).outcome = ⟨1, first.transcript k, [Log.fault fault]⟩ ∧
        (Session.run files jsonArgs).outcome = ⟨1, "", [Log.fault fault]⟩ := by
  have hstart := Scenario.start_of_simulation hfirst
  have hround : first.round = 0 := by rw [hstart]
  have htextrun := Session.outcome_run_of_load htext hlist hload hfirst
  have hjsonrun := Session.outcome_run_of_load hjson hlist hload hfirst
  rw [hformat] at htextrun
  rw [show Options.format { o with format? := some .json } = .json from rfl] at hjsonrun
  refine ⟨by rw [hstart], ?_, ?_, ?_⟩
  · rw [Session.run_of_load htext hlist hload hfirst, Session.run_of_load hjson hlist hload hfirst]
    exact congrArg (loading ++ Log.starting first.settings :: ·) (Session.log_play _ _ first)
  · intro hnone
    have hcourse := Simulation.course_of_succeeds (Simulation.run_fault?_eq_none_iff.mp hnone)
    refine ⟨?_, ⟨_, ?_, Session.read?_document first (first.run first.settings.rounds), ?_⟩, ?_, ?_⟩
    · rw [htextrun, Session.outcome_play _ _ hnone, Session.output_play_text hround hcourse]
      rfl
    · rw [hjsonrun, Session.outcome_play _ _ hnone, Session.output_play_json hcourse]
      rfl
    · rw [Session.document, hcourse.simulation]
      rfl
    · rw [hcourse.reports, Simulation.reports, List.length_map, List.length_range]
    · intro k report hreport
      rw [hcourse.reports] at hreport
      obtain ⟨hnumber, hcensus⟩ := Simulation.of_getElem?_reports hreport
      rw [hround, Nat.zero_add] at hnumber
      refine ⟨hnumber, ?_, ?_⟩
      · rw [RoundReport.toJson, Census.toJson, hnumber]
      · rw [hcensus]
        exact World.counts_census (Session.legible_after hload hfirst (k + 1))
  · intro fault hfault
    obtain ⟨k, hk, hfails⟩ := Simulation.run_fault?_eq_some_iff.mp hfault
    have hcourse := Simulation.course_of_failsAfter hfails hk
    refine ⟨k, hk, hfails, ?_, ?_⟩
    · rw [htextrun, Session.outcome_play _ _ hfault, Session.output_play_text hround hcourse]
      rfl
    · rw [hjsonrun, Session.outcome_play _ _ hfault, Session.output_play_json hcourse]
      rfl

def Files.absent : Files := fun _ => .error .notFound

/-- The demonstration plays its two rounds, but not with a budget of a single step: in the second
round its food does not get past the jump to the top. -/
theorem demo_is_told_in_both_formats :
    ∃ (first starved : Simulation) (document : Json),
      (Session.run .absent ["-n", "2"]).outcome = ⟨0, first.transcript 2, []⟩ ∧
      (Session.run .absent ["-n", "2", "--format", "json"]).outcome =
        ⟨0, document.text ++ "\n", []⟩ ∧
      Json.read? (document.text ++ "\n") = some document ∧
      (first.run 2).reports.length = 2 ∧
      (∀ k report, (first.run 2).reports[k]? = some report →
        report.round = k + 1 ∧
          report.toJson = .object
            [("round", .nat (k + 1)), ("events", .array (report.events.map Event.toJson)),
              ("census", .object (report.census.map fun (symbol, n) => (symbol, .nat n)))] ∧
          Census.Counts report.census (shownSymbols (first.after (k + 1)).world.board)) ∧
      (Session.run .absent ["--step-budget", "1"]).outcome =
        ⟨1, starved.transcript 1, [Log.fault (.noProgress "f" 1)]⟩ ∧
      (Session.run .absent ["--step-budget", "1", "--format", "json"]).outcome =
        ⟨1, "", [Log.fault (.noProgress "f" 1)]⟩ := by
  have hload : Session.load .absent none = .ok (_, []) := rfl
  have htext : CommandLine.read ["-n", "2"] = some (.perform { rounds? := some 2 }) := by
    decide +kernel
  have hjson : CommandLine.read ["-n", "2", "--format", "json"] =
      some (.perform { rounds? := some 2, format? := some .json }) := by decide +kernel
  have hstarved : CommandLine.read ["--step-budget", "1"] =
      some (.perform { stepBudget? := some 1 }) := by decide +kernel
  have hstarved' : CommandLine.read ["--step-budget", "1", "--format", "json"] =
      some (.perform { stepBudget? := some 1, format? := some .json }) := by decide +kernel
  obtain ⟨_, _, hplayed, _⟩ := formats_tell_the_same_run htext rfl hjson rfl hload rfl
  obtain ⟨_, _, _, hfails⟩ := formats_tell_the_same_run hstarved rfl hstarved' rfl hload rfl
  obtain ⟨htold, ⟨document, hprinted, hread, _⟩, hlength, hreports⟩ := hplayed rfl
  obtain ⟨k, hk, hfailed, htold', hnothing⟩ := hfails (.noProgress "f" 1) rfl
  have hplayed : 1 = k := by
    have hlengths := congrArg List.length (Simulation.course_of_failsAfter hfailed hk).reports
    rw [Simulation.reports, List.length_map, List.length_range] at hlengths
    exact hlengths
  subst hplayed
  exact ⟨_, _, document, htold, hprinted, hread, hlength, hreports, htold', hnothing⟩

end Vivarium
