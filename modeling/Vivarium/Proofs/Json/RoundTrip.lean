import Vivarium.Proofs.Json.Reader

/-! Documents whose numbers are natural are read back from their texts as they were, so the text of
such a document tells everything about it. -/
namespace Vivarium.Json

/-- All numbers in the document are natural. -/
inductive Natural : Json → Prop where
  | null : Natural .null
  | bool (b : Bool) : Natural (.bool b)
  | nat (n : Nat) : Natural (.nat n)
  | string (s : String) : Natural (.string s)
  | array {items : List Json} (natural : ∀ item ∈ items, Natural item) : Natural (.array items)
  | object {fields : List (String × Json)} (natural : ∀ field ∈ fields, Natural field.2) :
      Natural (.object fields)

@[simp] theorem natural_nat (n : Nat) : (nat n).Natural := .nat n

@[simp] theorem natural_string (s : String) : (string s).Natural := .string s

@[simp] theorem natural_array_iff {items : List Json} :
    (array items).Natural ↔ ∀ item ∈ items, item.Natural := by
  constructor
  · rintro ⟨⟩
    assumption
  · exact .array

@[simp] theorem natural_object_iff {fields : List (String × Json)} :
    (object fields).Natural ↔ ∀ field ∈ fields, field.2.Natural := by
  constructor
  · rintro ⟨⟩
    assumption
  · exact .object

/-! ### Blocks -/

def lineBreak (level : Nat) : List Char := '\n' :: List.replicate (2 * level) ' '

theorem isSpace_of_mem_lineBreak (level : Nat) : ∀ c ∈ lineBreak level, isSpace c = true := by
  intro c hc
  rcases List.mem_cons.mp hc with rfl | hc
  · rfl
  · rw [List.eq_of_mem_replicate hc]
    rfl

theorem toList_block (level : Nat) (first last : String) {lines : List String} (h : lines ≠ []) :
    (block level first last lines).toList =
      first.toList ++ (lineBreak (level + 1) ++
        ((',' :: lineBreak (level + 1)).intercalate (lines.map String.toList) ++
          (lineBreak level ++ last.toList))) := by
  have hbreak (level : Nat) : (indentation level).toList = List.replicate (2 * level) ' ' :=
    String.toList_ofList
  cases lines with
  | nil => exact absurd rfl h
  | cons line lines =>
    simp [block, lineBreak, hbreak, String.toList_append, String.toList_intercalate]

theorem length_le_of_mem_intercalate (separator : List Char) {line : List Char}
    {lines : List (List Char)} (h : line ∈ lines) :
    line.length ≤ (separator.intercalate lines).length := by
  induction lines with
  | nil => cases h
  | cons first lines ih =>
    cases lines with
    | nil => simp [List.mem_singleton.mp h]
    | cons second lines =>
      rw [List.intercalate_cons_cons, List.length_append, List.length_append]
      rcases List.mem_cons.mp h with rfl | h
      · omega
      · have := ih h
        omega

theorem length_le_length_intercalate {separator : List Char} (hsome : separator ≠ [])
    (lines : List (List Char)) : lines.length ≤ (separator.intercalate lines).length + 1 := by
  have hpos := List.length_pos_iff.mpr hsome
  induction lines with
  | nil => exact Nat.zero_le _
  | cons first lines ih =>
    cases lines with
    | nil => exact Nat.succ_le_succ (Nat.zero_le _)
    | cons second lines =>
      rw [List.intercalate_cons_cons, List.length_append, List.length_append, List.length_cons]
      omega

theorem length_block_map {α : Type} {text : α → String} {items : List α} {level fuel : Nat}
    {first last : String} (hfirst : first.toList ≠ [])
    (h : (block level first last (items.map text)).length ≤ fuel + 1) :
    items.length ≤ fuel ∧ ∀ a ∈ items, (text a).length ≤ fuel := by
  by_cases hsome : items = []
  · subst hsome
    exact ⟨Nat.zero_le _, by simp⟩
  have hpos := List.length_pos_iff.mpr hfirst
  rw [← String.length_toList, toList_block level first last (by simpa using hsome)] at h
  simp only [List.length_append, lineBreak, List.length_cons, List.map_map] at h
  have hcount := length_le_length_intercalate (List.cons_ne_nil ',' (lineBreak (level + 1)))
    (items.map (String.toList ∘ text))
  rw [List.length_map] at hcount
  simp only [lineBreak] at hcount
  refine ⟨by omega, ?_⟩
  intro a ha
  have hlong := length_le_of_mem_intercalate (',' :: lineBreak (level + 1))
    (List.mem_map_of_mem (f := String.toList ∘ text) ha)
  rw [Function.comp_apply, String.length_toList] at hlong
  simp only [lineBreak] at hlong
  omega

theorem exists_sequence?_block {α : Type} {item? : List Char → Option (α × List Char)}
    {text : α → String} {items : List α} {fuel : Nat} (level : Nat) (first last : String)
    (close : Char) (hclose : last.toList = [close]) (hdigit : close.isDigit = false)
    (hspace : isSpace close = false) (hcomma : close ≠ ',') (hfuel : items.length ≤ fuel)
    (hbegins : ∀ a ∈ items, Begins close (text a).toList)
    (hitems : ∀ a ∈ items, Reads item? (text a).toList a) :
    ∃ body, (block level first last (items.map text)).toList = first.toList ++ body ∧
      ∀ rest, sequence? item? close fuel (body ++ rest) = some (items, rest) := by
  by_cases hsome : items = []
  · subst hsome
    refine ⟨[close], by rw [List.map_nil, block, String.toList_append, hclose], ?_⟩
    intro rest
    rw [List.singleton_append, sequence?, skipSpace_cons hspace]
    exact if_pos rfl
  · refine ⟨_, toList_block level first last (by simpa using hsome), ?_⟩
    intro rest
    have hread := sequence?_intercalate hdigit hspace hcomma (isSpace_of_mem_lineBreak (level + 1))
      (isSpace_of_mem_lineBreak level) hsome hfuel hbegins hitems rest
    rw [List.map_map, hclose]
    simpa [List.append_assoc, Function.comp_def] using hread

/-! ### Documents -/

theorem prettyItems_eq_map (level : Nat) (items : List Json) :
    prettyItems level items = items.map (pretty level) := by
  induction items with
  | nil => rfl
  | cons item items ih => rw [prettyItems, ih, List.map_cons]

def prettyField (level : Nat) (field : String × Json) : String :=
  quote field.1 ++ ": " ++ pretty level field.2

theorem prettyFields_eq_map (level : Nat) (fields : List (String × Json)) :
    prettyFields level fields = fields.map (prettyField level) := by
  induction fields with
  | nil => rfl
  | cons field fields ih =>
    rw [prettyFields, ih, List.map_cons]
    rfl

theorem exists_toDigits_cons (n : Nat) :
    ∃ c tail, Nat.toDigits 10 n = c :: tail ∧ c.isDigit = true := by
  obtain ⟨c, tail, htail⟩ := List.exists_cons_of_ne_nil (Nat.toDigits_ne_nil (b := 10) (n := n))
  refine ⟨c, tail, htail, Nat.isDigit_of_mem_toDigits (b := 10) (n := n) (by decide) (by decide) ?_⟩
  rw [htail]
  exact List.mem_cons_self

theorem exists_toList_block (level : Nat) (first last : String) (lines : List String) :
    ∃ tail, (block level first last lines).toList = first.toList ++ tail := by
  cases lines with
  | nil => exact ⟨last.toList, String.toList_append⟩
  | cons line lines => exact ⟨_, toList_block level first last (List.cons_ne_nil line lines)⟩

theorem begins_pretty {j : Json} (h : j.Natural) (level : Nat) :
    Begins ']' (pretty level j).toList := by
  cases h with
  | null => exact ⟨'n', ['u', 'l', 'l'], by rw [pretty]; rfl, rfl, by decide⟩
  | bool b =>
    cases b with
    | false => exact ⟨'f', ['a', 'l', 's', 'e'], by rw [pretty]; rfl, rfl, by decide⟩
    | true => exact ⟨'t', ['r', 'u', 'e'], by rw [pretty]; rfl, rfl, by decide⟩
  | nat n =>
    obtain ⟨c, tail, htail, hc⟩ := exists_toDigits_cons n
    have hclose : c ≠ ']' := by
      rintro rfl
      cases hc
    refine ⟨c, tail, ?_, isSpace_of_isDigit hc, hclose⟩
    rw [pretty]
    exact Nat.toList_repr.trans htail
  | string s => exact ⟨'"', _, by rw [pretty]; exact String.toList_ofList, rfl, by decide⟩
  | @array items natural =>
    obtain ⟨tail, htail⟩ := exists_toList_block level "[" "]" (prettyItems (level + 1) items)
    exact ⟨'[', tail, by rw [pretty]; exact htail, rfl, by decide⟩
  | @object fields natural =>
    obtain ⟨tail, htail⟩ :=
      exists_toList_block level "\x7b" "\x7d" (prettyFields (level + 1) fields)
    exact ⟨'\x7b', tail, by rw [pretty]; exact htail, rfl, by decide⟩

theorem toList_prettyField (level : Nat) (field : String × Json) :
    (prettyField level field).toList =
      (quote field.1).toList ++ (':' :: ' ' :: (pretty level field.2).toList) := by
  simp [prettyField, String.toList_append]

theorem begins_prettyField (level : Nat) (field : String × Json) :
    Begins '\x7d' (prettyField level field).toList := by
  rw [toList_prettyField, quote, String.toList_ofList]
  exact ⟨'"', _, rfl, rfl, by decide⟩

theorem reads_prettyField {read? : List Char → Option (Json × List Char)} {level : Nat}
    {field : String × Json} (h : Reads read? (pretty level field.2).toList field.2) :
    Reads (field? read?) (prettyField level field).toList field := by
  intro gap rest hgap hrest
  obtain ⟨key, value⟩ := field
  have hvalue : read? (' ' :: ((pretty level value).toList ++ rest)) = some (value, rest) :=
    h [' '] rest (by simp [isSpace]) hrest
  obtain ⟨c, tail, htail, hc, _⟩ := begins_prettyField level (key, value)
  have hskip : skipSpace ((prettyField level (key, value)).toList ++ rest) =
      (quote key).toList ++ (':' :: ' ' :: ((pretty level value).toList ++ rest)) := by
    rw [htail, List.cons_append, skipSpace_cons hc, ← List.cons_append, ← htail,
      toList_prettyField]
    simp
  have hcolon : ∀ cs, skipSpace (':' :: cs) = ':' :: cs := skipSpace_cons rfl
  unfold field?
  rw [skipSpace_append hgap, hskip, string?_quote]
  simp [hcolon, hvalue]

theorem value?_gap {fuel : Nat} {gap text : List Char} (hgap : ∀ c ∈ gap, isSpace c = true) :
    value? fuel (gap ++ text) = value? fuel text := by
  cases fuel with
  | zero => rfl
  | succ fuel => simp only [value?, skipSpace_append hgap]

section

variable {level fuel : Nat}

theorem reads_nat (n : Nat) :
    Reads (value? (fuel + 1)) (pretty level (.nat n)).toList (.nat n) := by
  intro gap rest hgap hrest
  obtain ⟨c, tail, htail, hc⟩ := exists_toDigits_cons n
  have hother : ∀ mark : Char, mark.isDigit = false → c ≠ mark := by
    rintro mark hmark rfl
    rw [hc] at hmark
    cases hmark
  rw [value?_gap hgap, pretty, show (toString n).toList = Nat.toDigits 10 n from Nat.toList_repr,
    value?, htail, List.cons_append, skipSpace_cons (isSpace_of_isDigit hc)]
  simp only [hother '"' rfl, hother '[' rfl, hother '\x7b' rfl, hc, if_true, if_false]
  rw [← List.cons_append, ← htail, natural_toDigits n hrest]

theorem reads_string (s : String) :
    Reads (value? (fuel + 1)) (pretty level (.string s)).toList (.string s) := by
  intro gap rest hgap _
  obtain ⟨tail, htail⟩ : ∃ tail, (quote s).toList = '"' :: tail := ⟨_, String.toList_ofList⟩
  have hread := string?_quote s rest
  rw [htail, List.cons_append] at hread
  rw [value?_gap hgap, pretty, value?, htail, List.cons_append, skipSpace_cons rfl]
  simp [hread]

theorem reads_array {items : List Json} (natural : ∀ item ∈ items, Natural item)
    (hfuel : items.length ≤ fuel)
    (hitems : ∀ item ∈ items, Reads (value? fuel) (pretty (level + 1) item).toList item) :
    Reads (value? (fuel + 1)) (pretty level (.array items)).toList (.array items) := by
  intro gap rest hgap _
  obtain ⟨body, hbody, hread⟩ := exists_sequence?_block level "[" "]" ']' rfl
    rfl rfl (by decide) hfuel (fun item hitem => begins_pretty (natural item hitem) _) hitems
  rw [value?_gap hgap, pretty, prettyItems_eq_map, hbody, value?,
    show "[".toList ++ body ++ rest = '[' :: (body ++ rest) from rfl, skipSpace_cons rfl]
  simp [hread]

theorem reads_object {fields : List (String × Json)} (hfuel : fields.length ≤ fuel)
    (hfields : ∀ field ∈ fields,
      Reads (value? fuel) (pretty (level + 1) field.2).toList field.2) :
    Reads (value? (fuel + 1)) (pretty level (.object fields)).toList (.object fields) := by
  intro gap rest hgap _
  obtain ⟨body, hbody, hread⟩ := exists_sequence?_block level "\x7b" "\x7d" '\x7d' rfl
    rfl rfl (by decide) hfuel (fun field _ => begins_prettyField (level + 1) field)
    (fun field hfield => reads_prettyField (hfields field hfield))
  rw [value?_gap hgap, pretty, prettyFields_eq_map, hbody, value?,
    show "\x7b".toList ++ body ++ rest = '\x7b' :: (body ++ rest) from rfl, skipSpace_cons rfl]
  simp [hread]

/-- Whoever has the length of its text as fuel reads a document as it was printed. -/
theorem reads_pretty {j : Json} (h : j.Natural) (hfuel : (pretty level j).length ≤ fuel) :
    Reads (value? fuel) (pretty level j).toList j := by
  -- One unit of fuel is spent on each level of nesting, and a block is longer than what is in it.
  induction fuel generalizing j level with
  | zero =>
    obtain ⟨c, tail, htail, _⟩ := begins_pretty h level
    rw [← String.length_toList, htail, List.length_cons] at hfuel
    omega
  | succ fuel ih =>
    cases h with
    | null =>
      intro gap rest hgap _
      rw [value?_gap hgap, pretty]
      rfl
    | bool b =>
      intro gap rest hgap _
      rw [value?_gap hgap, pretty]
      cases b <;> rfl
    | nat n => exact reads_nat n
    | string s => exact reads_string s
    | @array items natural =>
      rw [pretty, prettyItems_eq_map] at hfuel
      obtain ⟨hcount, hlong⟩ := length_block_map (by decide) hfuel
      exact reads_array natural hcount fun item hitem => ih (natural item hitem) (hlong item hitem)
    | @object fields natural =>
      rw [pretty, prettyFields_eq_map] at hfuel
      obtain ⟨hcount, hlong⟩ := length_block_map (by decide) hfuel
      refine reads_object hcount fun field hfield => ih (natural field hfield) ?_
      have hvalue := hlong field hfield
      rw [prettyField, String.length_append] at hvalue
      omega

end

/-! ### Texts -/

/-- Spaces behind the text of a document do not matter, and nothing else is lost. -/
theorem read?_text_append {j : Json} (h : j.Natural) {blank : String}
    (hblank : ∀ c ∈ blank.toList, isSpace c = true) : read? (j.text ++ blank) = some j := by
  have hread : Reads (value? (j.text ++ blank).length) j.text.toList j := by
    apply reads_pretty h
    rw [String.length_append]
    exact Nat.le_add_right _ _
  have hends : EndsNumber (blank.toList ++ []) := endsNumber_append hblank (by rintro c ⟨⟩)
  have hskip : skipSpace (blank.toList ++ []) = [] := skipSpace_append hblank []
  have hvalue := hread [] _ (by simp) hends
  rw [List.append_nil] at hskip hvalue
  rw [List.nil_append] at hvalue
  rw [read?, String.toList_append, hvalue]
  exact if_pos hskip

theorem read?_text {j : Json} (h : j.Natural) : read? j.text = some j := by
  have hread : read? (j.text ++ "") = some j := read?_text_append h (by simp)
  rwa [String.append_empty] at hread

/-- The layout is not what the reader goes by. -/
example : read? " [1,\"\\u0041\" ,\x7b \"b\":true\x7d ]\n" =
    some (.array [.nat 1, .string "A", .object [("b", .bool true)]]) := by
  rfl

example : read? "[1,]" = none := by
  rfl

theorem text_inj {j k : Json} (hj : j.Natural) (hk : k.Natural) (h : j.text = k.text) : j = k := by
  have hread := read?_text hj
  rw [h, read?_text hk] at hread
  exact (Option.some.inj hread).symm

end Vivarium.Json
