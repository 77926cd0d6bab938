import Vivarium.Species

/-! The classic species, found by name. -/
namespace Vivarium.Species

/-- Turns on the spot for ever. -/
def food : Species := ⟨"f", [.act .left, .jump .always 0]⟩

/-- Walks straight until something is in the way. -/
def hopper : Species := ⟨"h", [.act .hop, .jump .always 0]⟩

/-- Infects what it can and wanders otherwise. -/
def rover : Species :=
  ⟨"r",
    [.jump .enemy 9, .jump .empty 7, .jump .heads 5, .act .left, .jump .always 0,
      .act .right, .jump .always 0, .act .hop, .jump .always 0, .act .infect, .jump .always 0]⟩

/-- Stays put and infects whatever comes to stand before it. -/
def trap : Species :=
  ⟨"t", [.jump .enemy 3, .act .left, .jump .always 0, .act .infect, .jump .always 0]⟩

def library : List (String × Species) :=
  [("food", food), ("hopper", hopper), ("rover", rover), ("trap", trap)]

/-- The sources of the species, under their names and with their symbols. -/
def librarySources : List (String × String × String) :=
  [("food", "f", "\nleft\ngo 0\n"),
    ("hopper", "h", "\nhop\ngo 0\n"),
    ("rover", "r",
      "\nif_enemy 9\nif_empty 7\nif_random 5\nleft\ngo 0\nright\ngo 0\n" ++
        "hop\ngo 0\ninfect\ngo 0\n"),
    ("trap", "t", "\nif_enemy 3\nleft\ngo 0\ninfect\ngo 0\n")]

def sameName (a b : String) : Bool := a.toList.map Char.toLower = b.toList.map Char.toLower

/-- The programs of the library are what the assembler makes of their sources. -/
theorem ofSource_librarySources :
    librarySources.map (fun (name, symbol, source) => (name, ofSource symbol source)) =
      library.map fun (name, s) => (name, .ok s) := by
  rfl

/-- Names are compared without regard to ASCII case. -/
def named (name : String) : Except Fault Species :=
  match library.find? fun entry => sameName entry.1 name with
  | some (_, s) => .ok s
  | none => .error (.unknownSpecies name)

theorem named_eq_ofSource (name : String) :
    named name =
      match librarySources.find? fun entry => sameName entry.1 name with
      | some (_, symbol, source) => ofSource symbol source
      | none => .error (.unknownSpecies name) := by
  have hfound := congrArg (List.find? fun entry => sameName entry.1 name) ofSource_librarySources
  rw [List.find?_map, List.find?_map] at hfound
  change (librarySources.find? fun entry => sameName entry.1 name).map _ =
    (library.find? fun entry => sameName entry.1 name).map _ at hfound
  unfold named
  cases hs : library.find? fun entry => sameName entry.1 name with
  | none =>
    rw [hs, Option.map_none, Option.map_eq_none_iff] at hfound
    rw [hfound]
  | some entry =>
    rw [hs, Option.map_some, Option.map_eq_some_iff] at hfound
    obtain ⟨source, hsource, hentry⟩ := hfound
    rw [hsource]
    exact (congrArg Prod.snd hentry).symm

end Vivarium.Species
