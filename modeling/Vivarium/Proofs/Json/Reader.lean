import Vivarium.Json

/-! A reader of JSON texts, with no regard to how they are laid out, and what it makes of the pieces
that documents are printed in: strings, natural numbers and sequences. -/
namespace Vivarium.Json

/-! ### The reader

Values are read from the front of a list of characters and leave the rest. The fuel bounds both how
deep values are nested and how many stand in a row; the length of a text is enough for it. -/

def isSpace (c : Char) : Bool := c = ' ' || c = '\t' || c = '\n' || c = '\r'

def skipSpace (cs : List Char) : List Char := cs.dropWhile isSpace

def escaped? : Char → Option Char
  | '"' => some '"'
  | '\\' => some '\\'
  | '/' => some '/'
  | 'b' => some '\x08'
  | 'f' => some '\x0c'
  | 'n' => some '\n'
  | 'r' => some '\r'
  | 't' => some '\t'
  | _ => none

def hexValue? (c : Char) : Option Nat :=
  if c.isDigit then some (c.toNat - '0'.toNat)
  else if 'a' ≤ c ∧ c ≤ 'f' then some (c.toNat - 'a'.toNat + 10)
  else if 'A' ≤ c ∧ c ≤ 'F' then some (c.toNat - 'A'.toNat + 10)
  else none

/-- Four digits in base sixteen that name a character; halves of a surrogate pair name none. -/
def codePoint? (digits : List Char) : Option Char := do
  let values ← digits.mapM hexValue?
  let code := values.foldl (fun n value => 16 * n + value) 0
  if code.isValidChar then some (Char.ofNat code) else none

def characters? : List Char → Option (List Char × List Char)
  | [] => none
  | '"' :: rest => some ([], rest)
  | '\\' :: 'u' :: a :: b :: c :: d :: rest => do
    let character ← codePoint? [a, b, c, d]
    (characters? rest).map fun (cs, rest) => (character :: cs, rest)
  | '\\' :: c :: rest => do
    let character ← escaped? c
    (characters? rest).map fun (cs, rest) => (character :: cs, rest)
  | c :: rest =>
    if c.toNat < 0x20 then none
    else (characters? rest).map fun (cs, rest) => (c :: cs, rest)

def string? : List Char → Option (String × List Char)
  | '"' :: rest => (characters? rest).map fun (cs, rest) => (String.ofList cs, rest)
  | _ => none

def natural (cs : List Char) : Json × List Char :=
  (.nat (Nat.ofDigitChars 10 (cs.takeWhile Char.isDigit) 0), cs.dropWhile Char.isDigit)

def keyword? : List Char → Option (Json × List Char)
  | 'n' :: 'u' :: 'l' :: 'l' :: rest => some (.null, rest)
  | 't' :: 'r' :: 'u' :: 'e' :: rest => some (.bool true, rest)
  | 'f' :: 'a' :: 'l' :: 's' :: 'e' :: rest => some (.bool false, rest)
  | _ => none

section

variable {α : Type} (item? : List Char → Option (α × List Char)) (close : Char)

/-- One item or more up to the closing mark, with a comma between each two. -/
def items? : (fuel : Nat) → List Char → Option (List α × List Char)
  | 0, _ => none
  | fuel + 1, cs => do
    let (item, rest) ← item? cs
    match skipSpace rest with
    | [] => none
    | c :: rest =>
      if c = close then some ([item], rest)
      else if c = ',' then (items? fuel rest).map fun (items, rest) => (item :: items, rest)
      else none

def sequence? (fuel : Nat) (cs : List Char) : Option (List α × List Char) :=
  match skipSpace cs with
  | [] => none
  | c :: rest => if c = close then some ([], rest) else items? item? close fuel cs

end

def field? (value? : List Char → Option (Json × List Char)) (cs : List Char) :
    Option ((String × Json) × List Char) := do
  let (key, rest) ← string? (skipSpace cs)
  match skipSpace rest with
  | ':' :: rest => (value? rest).map fun (value, rest) => ((key, value), rest)
  | _ => none

def value? : (fuel : Nat) → List Char → Option (Json × List Char)
  | 0, _ => none
  | fuel + 1, cs =>
    match skipSpace cs with
    | [] => none
    | c :: rest =>
      if c = '"' then (string? (c :: rest)).map fun (s, rest) => (.string s, rest)
      else if c = '[' then
        (sequence? (value? fuel) ']' fuel rest).map fun (items, rest) => (.array items, rest)
      else if c = '\x7b' then
        (sequence? (field? (value? fuel)) '\x7d' fuel rest).map fun (fields, rest) =>
          (.object fields, rest)
      else if c.isDigit then some (natural (c :: rest))
      else keyword? (c :: rest)

def read? (text : String) : Option Json :=
  match value? text.length text.toList with
  | some (j, rest) => if skipSpace rest = [] then some j else none
  | none => none

/-! ### Strings -/

theorem codePoint?_hexDigits {c : Char} (h : c.toNat < 0x20) :
    codePoint? (hexDigits c.toNat) = some c := by
  have hall : ∀ n < 0x20, codePoint? (hexDigits n) = some (Char.ofNat n) := by decide
  rw [hall _ h, Char.ofNat_toNat]

theorem characters?_hexDigits {c : Char} (h : c.toNat < 0x20) (rest : List Char) :
    characters? ('\\' :: 'u' :: hexDigits c.toNat ++ rest) =
      (characters? rest).map fun (cs, rest) => (c :: cs, rest) := by
  have hcode := codePoint?_hexDigits h
  rw [hexDigits] at hcode ⊢
  simp only [List.cons_append, List.nil_append, characters?]
  rw [hcode]
  rfl

theorem characters?_cons {c : Char} (hquote : c ≠ '"') (hbackslash : c ≠ '\\')
    (hcontrol : ¬c.toNat < 0x20) (rest : List Char) :
    characters? (c :: rest) = (characters? rest).map fun (cs, rest) => (c :: cs, rest) := by
  rw [characters?.eq_def]
  split
  · next h => cases h
  · next h => exact absurd (List.cons.inj h).1 hquote
  · next h => exact absurd (List.cons.inj h).1 hbackslash
  · next h => exact absurd (List.cons.inj h).1 hbackslash
  · next h =>
    cases h
    rw [if_neg hcontrol]

theorem characters?_escapeChar (c : Char) (rest : List Char) :
    characters? (escapeChar c ++ rest) =
      (characters? rest).map fun (cs, rest) => (c :: cs, rest) := by
  by_cases hquote : c = '"'
  · subst hquote
    rfl
  by_cases hbackslash : c = '\\'
  · subst hbackslash
    rfl
  by_cases hbackspace : c = '\x08'
  · subst hbackspace
    rfl
  by_cases htab : c = '\t'
  · subst htab
    rfl
  by_cases hline : c = '\n'
  · subst hline
    rfl
  by_cases hpage : c = '\x0c'
  · subst hpage
    rfl
  by_cases hreturn : c = '\r'
  · subst hreturn
    rfl
  by_cases hcontrol : c.toNat < 0x20
  · have hescaped : escapeChar c = '\\' :: 'u' :: hexDigits c.toNat := by
      simp only [escapeChar, hquote, hbackslash, hbackspace, htab, hline, hpage, hreturn, hcontrol,
        if_true, if_false]
    rw [hescaped, characters?_hexDigits hcontrol]
  · have hkept : escapeChar c = [c] := by
      simp only [escapeChar, hquote, hbackslash, hbackspace, htab, hline, hpage, hreturn, hcontrol,
        if_false]
    rw [hkept, List.singleton_append, characters?_cons hquote hbackslash hcontrol]

theorem characters?_flatMap (cs rest : List Char) :
    characters? (cs.flatMap escapeChar ++ '"' :: rest) = some (cs, rest) := by
  induction cs with
  | nil => rfl
  | cons c cs ih =>
    rw [List.flatMap_cons, List.append_assoc, characters?_escapeChar, ih]
    rfl

theorem string?_quote (s : String) (rest : List Char) :
    string? ((quote s).toList ++ rest) = some (s, rest) := by
  simp only [quote, String.toList_ofList, List.cons_append, List.append_assoc, List.nil_append,
    string?, characters?_flatMap]
  simp

/-! ### Spaces and numbers -/

def EndsNumber (rest : List Char) : Prop := ∀ c ∈ rest.head?, c.isDigit = false

theorem isDigit_of_isSpace {c : Char} (h : isSpace c = true) : c.isDigit = false := by
  simp only [isSpace, Bool.or_eq_true, decide_eq_true_eq] at h
  rcases h with ((rfl | rfl) | rfl) | rfl <;> rfl

theorem isSpace_of_isDigit {c : Char} (h : c.isDigit = true) : isSpace c = false := by
  cases hspace : isSpace c with
  | false => rfl
  | true =>
    rw [isDigit_of_isSpace hspace] at h
    cases h

theorem endsNumber_append {gap rest : List Char} (hgap : ∀ c ∈ gap, isSpace c = true)
    (h : EndsNumber rest) : EndsNumber (gap ++ rest) := by
  cases gap with
  | nil => exact h
  | cons c gap =>
    intro d hd
    cases hd
    exact isDigit_of_isSpace (hgap _ List.mem_cons_self)

theorem skipSpace_append {gap : List Char} (hgap : ∀ c ∈ gap, isSpace c = true)
    (cs : List Char) : skipSpace (gap ++ cs) = skipSpace cs :=
  List.dropWhile_append_of_pos hgap

theorem skipSpace_cons {c : Char} (h : isSpace c = false) (cs : List Char) :
    skipSpace (c :: cs) = c :: cs := List.dropWhile_cons_of_neg (by simp [h])

theorem natural_toDigits (n : Nat) {rest : List Char} (h : EndsNumber rest) :
    natural (Nat.toDigits 10 n ++ rest) = (.nat n, rest) := by
  have hdigits : ∀ c ∈ Nat.toDigits 10 n, c.isDigit = true := fun c hc =>
    Nat.isDigit_of_mem_toDigits (by decide) (by decide) hc
  have htake : rest.takeWhile Char.isDigit = [] := by
    cases rest with
    | nil => rfl
    | cons c rest => exact List.takeWhile_cons_of_neg (by simp [h c rfl])
  have hdrop : rest.dropWhile Char.isDigit = rest := by
    cases rest with
    | nil => rfl
    | cons c rest => exact List.dropWhile_cons_of_neg (by simp [h c rfl])
  rw [natural, List.takeWhile_append_of_pos hdigits, List.dropWhile_append_of_pos hdigits, htake,
    hdrop, List.append_nil, Nat.ofDigitChars_ten_toDigits]

/-! ### Sequences -/

section

variable {α : Type} {item? : List Char → Option (α × List Char)} {close : Char}
  {text : α → List Char} {gap last : List Char} {items : List α} {fuel : Nat}

/-- The reader takes the text for what it means, whatever spaces stand before it and whatever
follows. -/
def Reads (item? : List Char → Option (α × List Char)) (text : List Char) (a : α) : Prop :=
  ∀ gap rest, (∀ c ∈ gap, isSpace c = true) → EndsNumber rest →
    item? (gap ++ (text ++ rest)) = some (a, rest)

theorem items?_intercalate (hdigit : close.isDigit = false) (hspace : isSpace close = false)
    (hcomma : close ≠ ',') (hgap : ∀ c ∈ gap, isSpace c = true)
    (hlast : ∀ c ∈ last, isSpace c = true) (hsome : items ≠ []) (hfuel : items.length ≤ fuel)
    (hitems : ∀ a ∈ items, Reads item? (text a) a) (rest : List Char) :
    items? item? close fuel
      (gap ++ ((',' :: gap).intercalate (items.map text) ++ (last ++ close :: rest))) =
        some (items, rest) := by
  induction items generalizing fuel with
  | nil => exact absurd rfl hsome
  | cons a items ih =>
    obtain ⟨fuel, rfl⟩ : ∃ less, fuel = less + 1 := by
      rw [List.length_cons] at hfuel
      exact ⟨fuel - 1, by omega⟩
    have ha := hitems a List.mem_cons_self
    unfold items?
    cases items with
    | nil =>
      rw [List.map_singleton, List.intercalate_singleton,
        ha _ _ hgap (endsNumber_append hlast (by rintro c ⟨⟩; exact hdigit))]
      simp [skipSpace_append hlast, skipSpace_cons hspace]
    | cons b items =>
      have hrest := ih (by simp) (Nat.le_of_succ_le_succ hfuel)
        (fun x hx => hitems x (List.mem_cons_of_mem _ hx))
      rw [List.map_cons] at hrest
      rw [List.map_cons, List.map_cons, List.intercalate_cons_cons, List.append_assoc,
        List.append_assoc, List.cons_append, ha _ _ hgap (by rintro c ⟨⟩; rfl)]
      have hskip : ∀ cs, skipSpace (',' :: cs) = ',' :: cs := skipSpace_cons rfl
      simp [hskip, Ne.symm hcomma, hrest]

/-- Something that can be told from a space and from the end of a sequence. -/
def Begins (close : Char) (text : List Char) : Prop :=
  ∃ c tail, text = c :: tail ∧ isSpace c = false ∧ c ≠ close

theorem sequence?_intercalate (hdigit : close.isDigit = false) (hspace : isSpace close = false)
    (hcomma : close ≠ ',') (hgap : ∀ c ∈ gap, isSpace c = true)
    (hlast : ∀ c ∈ last, isSpace c = true) (hsome : items ≠ []) (hfuel : items.length ≤ fuel)
    (hbegins : ∀ a ∈ items, Begins close (text a))
    (hitems : ∀ a ∈ items, Reads item? (text a) a) (rest : List Char) :
    sequence? item? close fuel
      (gap ++ ((',' :: gap).intercalate (items.map text) ++ (last ++ close :: rest))) =
        some (items, rest) := by
  have hread := items?_intercalate hdigit hspace hcomma hgap hlast hsome hfuel hitems rest
  obtain ⟨a, others, rfl⟩ := List.exists_cons_of_ne_nil hsome
  obtain ⟨c, tail, htext, hc, hclose⟩ := hbegins a List.mem_cons_self
  obtain ⟨more, hmore⟩ :
      ∃ more, (',' :: gap).intercalate ((a :: others).map text) = c :: more := by
    cases others with
    | nil => exact ⟨tail, by rw [List.map_singleton, List.intercalate_singleton, htext]⟩
    | cons b others =>
      rw [List.map_cons, List.map_cons, List.intercalate_cons_cons, htext]
      exact ⟨_, rfl⟩
  unfold sequence?
  rw [hmore] at hread ⊢
  rw [List.cons_append] at hread ⊢
  rw [skipSpace_append hgap, skipSpace_cons hc]
  simp only [if_neg hclose]
  exact hread

end

end Vivarium.Json
