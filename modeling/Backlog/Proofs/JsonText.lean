import Mathlib.Data.List.TakeWhile
import Backlog.Json.Reader
/-!
JSON text that has been written can be read: on one line or indented, a value is read back as it was,
whatever follows it.

- `Json.read_escape`, `Json.literal_written`: a string literal, one character at a time;
- `Json.IsNumber`: the spellings of numbers that are not natural as they stand;
- `Json.numeral_decimal`, `Json.numeral_number`: a number, unless more of a number follows;
- `Json.Plain`: values whose numbers are spelled in this way;
- `Json.parse_render`, `Json.parse_render_space`: a plain value, read back from its text.
-/
namespace Backlog.Json
set_option autoImplicit false

/-! ## String literals -/

/-- Inside a literal, this text is read as one piece, which stands for the character. -/
def ReadAs (written : Text) (c : Char) : Prop :=
  ∃ p : Piece, (∀ t : Text, literal? (written ++ t) = (literal? t).map fun r => (p :: r.1, r.2)) ∧
    ∀ ps : List Piece, denote (p :: ps) = (denote ps).map (c :: ·)

theorem read_letter {x c : Char} (hx : x ≠ 'u') (stands : escaped? x = some c) :
    ReadAs ['\\', x] c := by
  refine ⟨.char c, fun t => ?_, fun ps => rfl⟩
  rw [List.cons_append, List.singleton_append, literal?]
  · rw [stands]
    cases literal? t <;> rfl
  · simp [hx]

theorem unit_of_control : ∀ n < 32, unit? '0' '0' (hexDigit (n / 16)) (hexDigit (n % 16)) = some n := by
  decide

theorem denote_unit {u : Nat} (h : u < 0xD800) (ps : List Piece) :
    denote (.unit u :: ps) = (denote ps).map (Char.ofNat u :: ·) := by
  have high : isHigh u = false := by simp [isHigh]; omega
  have low : isLow u = false := by simp [isLow]; omega
  rcases ps with _ | ⟨c | v, ps⟩ <;> simp [denote, high, low]

theorem read_control {c : Char} (h : c.toNat < 0x20) :
    ReadAs ['\\', 'u', '0', '0', hexDigit (c.toNat / 16), hexDigit (c.toNat % 16)] c := by
  refine ⟨.unit c.toNat, fun t => ?_, fun ps => ?_⟩
  · simp only [List.cons_append, List.nil_append]
    rw [literal?, unit_of_control _ h]
    cases literal? t <;> rfl
  · rw [denote_unit (by omega), Char.ofNat_toNat]

theorem read_bare {c : Char} (quote : c ≠ '"') (backslash : c ≠ '\\') (control : ¬ c.toNat < 0x20) :
    ReadAs [c] c := by
  refine ⟨.char c, fun t => ?_, fun ps => rfl⟩
  rw [List.singleton_append, literal?]
  · rw [if_neg (not_or.2 ⟨control, backslash⟩)]
    cases literal? t <;> rfl
  all_goals simp [quote, backslash]

theorem read_escape (c : Char) : ReadAs (escape c) c := by
  unfold escape
  split_ifs with quote backslash back feed line ret tab control
  · subst quote
    exact read_letter (by decide) rfl
  · subst backslash
    exact read_letter (by decide) rfl
  · subst back
    exact read_letter (by decide) rfl
  · subst feed
    exact read_letter (by decide) rfl
  · subst line
    exact read_letter (by decide) rfl
  · subst ret
    exact read_letter (by decide) rfl
  · subst tab
    exact read_letter (by decide) rfl
  · exact read_control control
  · exact read_bare quote backslash control

theorem literal_written (t rest : Text) : ∃ ps : List Piece,
    literal? (t.flatMap escape ++ '"' :: rest) = some (ps, rest) ∧ denote ps = some t := by
  induction t with
  | nil => exact ⟨[], rfl, rfl⟩
  | cons c t ih =>
    obtain ⟨ps, read, stands⟩ := ih
    obtain ⟨p, one, first⟩ := read_escape c
    refine ⟨p :: ps, ?_, ?_⟩
    · rw [List.flatMap_cons, List.append_assoc, one, read]
      rfl
    · rw [first, stands]
      rfl

theorem quoted_quote (s : Quoted) (rest : Text) :
    ∃ t : Text, quote s ++ rest = '"' :: t ∧ quoted? t = some (s, rest) := by
  cases s with
  | none =>
    have written : quote none = ['"', '\\', 'u', 'd', '8', '0', '0', '"'] := by decide
    have half : unit? 'd' '8' '0' '0' = some 0xD800 := by decide
    refine ⟨['\\', 'u', 'd', '8', '0', '0', '"'] ++ rest, by rw [written]; rfl, ?_⟩
    simp [quoted?, literal?, half, denote, isHigh]
  | some s =>
    obtain ⟨ps, read, stands⟩ := literal_written s rest
    refine ⟨s.flatMap escape ++ '"' :: rest, List.append_assoc .., ?_⟩
    rw [quoted?, read, ← stands]
    rfl

/-! ## Numbers -/

structure IsDigits (ds : Text) : Prop where
  some_digit : ds ≠ []
  digits : ∀ d ∈ ds, d.isDigit = true

/-- A whole part: digits, of which a zero is the first one only where it stands alone. -/
structure IsWhole (w : Text) : Prop extends IsDigits w where
  alone : w.head? = some '0' → w = ['0']

def IsFraction (f : Text) : Prop := f = [] ∨ ∃ ds : Text, IsDigits ds ∧ f = '.' :: ds

def IsExponent (e : Text) : Prop :=
  e = [] ∨ ∃ (c : Char) (s ds : Text), (c = 'e' ∨ c = 'E') ∧ (s = [] ∨ s = ['+'] ∨ s = ['-']) ∧
    IsDigits ds ∧ e = c :: s ++ ds

/-- The spelling of a number that is not natural as it stands. -/
inductive IsNumber : Text → Prop
  | negative {w f e : Text} (hw : IsWhole w) (hf : IsFraction f) (he : IsExponent e) :
    IsNumber ('-' :: w ++ f ++ e)
  | positive {w f e : Text} (hw : IsWhole w) (hf : IsFraction f) (he : IsExponent e)
    (more : f ≠ [] ∨ e ≠ []) : IsNumber (w ++ f ++ e)

/-- Whether a text does not go on with digits that end in front of it. -/
def EndsDigits (rest : Text) : Prop := ∀ c ∈ rest.head?, c.isDigit = false

/-- Whether a text does not go on with a number that ends in front of it. -/
def EndsNumber (rest : Text) : Prop :=
  ∀ c ∈ rest.head?, c.isDigit = false ∧ c ≠ '.' ∧ c ≠ 'e' ∧ c ≠ 'E'

theorem EndsNumber.digits {rest : Text} (ends : EndsNumber rest) : EndsDigits rest :=
  fun c hc => (ends c hc).1

theorem ends_digits_cons {c : Char} (h : c.isDigit = false) (rest : Text) :
    EndsDigits (c :: rest) := by
  intro d hd
  obtain rfl : c = d := by simpa using hd
  exact h

theorem EndsDigits.behind {rest : Text} (ends : EndsDigits rest) :
    rest.takeWhile Char.isDigit = [] ∧ rest.dropWhile Char.isDigit = rest := by
  cases rest with
  | nil => exact ⟨rfl, rfl⟩
  | cons c rest => simp [ends c rfl]

theorem digits_written {ds rest : Text} (h : IsDigits ds) (ends : EndsDigits rest) :
    digits? (ds ++ rest) = some (ds, rest) := by
  rw [digits?, List.takeWhile_append_of_pos h.digits, List.dropWhile_append_of_pos h.digits,
    ends.behind.1, ends.behind.2, List.append_nil]
  cases ds with
  | nil => exact absurd rfl h.some_digit
  | cons d ds => rfl

theorem whole_written {w rest : Text} (h : IsWhole w) (ends : EndsDigits rest) :
    whole? (w ++ rest) = some (w, rest) := by
  have read := digits_written h.toIsDigits ends
  obtain ⟨d, ds, rfl⟩ := List.exists_cons_of_ne_nil h.some_digit
  by_cases zero : d = '0'
  · subst zero
    rw [h.alone rfl]
    rfl
  · rw [List.cons_append] at read ⊢
    rw [whole?, read]
    simp [zero]

theorem fraction_written {f rest : Text} (h : IsFraction f) (ends : EndsDigits rest)
    (pointless : ∀ c ∈ rest.head?, c ≠ '.') : fraction? (f ++ rest) = some (f, rest) := by
  obtain rfl | ⟨ds, hds, rfl⟩ := h
  · cases rest with
    | nil => rfl
    | cons c rest =>
      rw [List.nil_append, fraction?]
      simp [pointless c rfl]
  · rw [List.cons_append, fraction?, digits_written hds ends]
    rfl

theorem sign_written {s : Text} (h : s = [] ∨ s = ['+'] ∨ s = ['-']) {ds : Text}
    (hds : IsDigits ds) (rest : Text) : sign (s ++ (ds ++ rest)) = (s, ds ++ rest) := by
  obtain ⟨d, ds, rfl⟩ := List.exists_cons_of_ne_nil hds.some_digit
  have digit : d.isDigit = true := hds.digits d List.mem_cons_self
  have not_plus : d ≠ '+' := fun e => absurd (e ▸ digit) (by decide)
  have not_minus : d ≠ '-' := fun e => absurd (e ▸ digit) (by decide)
  obtain rfl | rfl | rfl := h
  · rw [List.nil_append, List.cons_append, sign]
    all_goals simp [not_plus, not_minus]
  · rfl
  · rfl

theorem exponent_written {e rest : Text} (h : IsExponent e) (ends : EndsNumber rest) :
    exponent? (e ++ rest) = some (e, rest) := by
  obtain rfl | ⟨c, s, ds, letter, signed, hds, rfl⟩ := h
  · cases rest with
    | nil => rfl
    | cons c rest => simp [exponent?, (ends c rfl).2.2.1, (ends c rfl).2.2.2]
  · have read := digits_written hds ends.digits
    have cut := sign_written signed hds rest
    rw [List.cons_append, List.cons_append, List.append_assoc, exponent?, if_pos letter, cut]
    simp [read]

section Numeral
variable {w f e rest : Text} (hw : IsWhole w) (hf : IsFraction f) (he : IsExponent e)
  (ends : EndsNumber rest)

include he ends in
theorem behind_fraction :
    EndsDigits (e ++ rest) ∧ ∀ c ∈ (e ++ rest).head?, c ≠ '.' := by
  obtain rfl | ⟨c, s, ds, letter, -, -, rfl⟩ := he
  · exact ⟨ends.digits, fun c hc => (ends c hc).2.1⟩
  · refine ⟨ends_digits_cons ?_ _, fun d hd => ?_⟩
    · obtain rfl | rfl := letter <;> decide
    · obtain rfl : c = d := by simpa using hd
      obtain rfl | rfl := letter <;> decide

include hf he ends in
theorem behind_whole : EndsDigits (f ++ (e ++ rest)) := by
  obtain rfl | ⟨ds, -, rfl⟩ := hf
  · exact (behind_fraction he ends).1
  · exact ends_digits_cons (by decide) _

include hw hf he ends

theorem numeral_negative :
    numeral? ('-' :: (w ++ (f ++ (e ++ rest)))) = some (.number ('-' :: w ++ f ++ e), rest) := by
  obtain ⟨digits, pointless⟩ := behind_fraction he ends
  rw [numeral?, whole_written hw (behind_whole hf he ends)]
  simp [fraction_written hf digits pointless, exponent_written he ends]

theorem numeral_positive :
    numeral? (w ++ (f ++ (e ++ rest))) =
      some (if f.isEmpty && e.isEmpty then .natural (Text.ofDigits w) else .number (w ++ f ++ e),
        rest) := by
  obtain ⟨digits, pointless⟩ := behind_fraction he ends
  have whole := whole_written hw (behind_whole hf he ends)
  obtain ⟨d, ds, rfl⟩ := List.exists_cons_of_ne_nil hw.some_digit
  have unsigned : d ≠ '-' := fun e => absurd (e ▸ hw.digits d List.mem_cons_self) (by decide)
  rw [List.cons_append] at whole ⊢
  rw [numeral?, whole]
  · simp [fraction_written hf digits pointless, exponent_written he ends]
  · simp [unsigned]

end Numeral

/-- Only zero is written with a leading zero. -/
theorem decimal_leading_zero {n : Nat} {ds : Text} (h : Text.decimal n = '0' :: ds) : n = 0 := by
  induction n using Nat.strong_induction_on generalizing ds with
  | _ n ih =>
    by_cases small : n < 10
    · rw [Text.decimal, Nat.toDigits_of_lt_base small] at h
      have all : ∀ m < 10, m.digitChar = '0' → m = 0 := by decide
      exact all n small (List.cons.inj h).1
    · rw [Text.decimal, Nat.toDigits_of_base_le (by decide) (by omega)] at h
      obtain ⟨d, front, e⟩ := List.exists_cons_of_ne_nil (Nat.toDigits_ne_nil (n := n / 10) (b := 10))
      rw [e] at h
      obtain ⟨rfl, -⟩ := List.cons.inj h
      have := ih (n / 10) (by omega) e
      omega

theorem decimal_whole (n : Nat) : IsWhole (Text.decimal n) where
  some_digit := Nat.toDigits_ne_nil
  digits := Text.decimal_digits n
  alone := by
    intro leads
    obtain ⟨ds, e⟩ := List.head?_eq_some_iff.1 leads
    obtain rfl := decimal_leading_zero e
    rfl

theorem numeral_decimal (n : Nat) {rest : Text} (ends : EndsNumber rest) :
    numeral? (Text.decimal n ++ rest) = some (.natural n, rest) := by
  have read := numeral_positive (decimal_whole n) (.inl rfl) (.inl rfl) ends
  rw [Text.ofDigits_decimal] at read
  exact read

theorem numeral_number {t : Text} (h : IsNumber t) {rest : Text} (ends : EndsNumber rest) :
    numeral? (t ++ rest) = some (.number t, rest) := by
  cases h with
  | negative hw hf he =>
    have read := numeral_negative hw hf he ends
    simp only [List.cons_append, List.append_assoc] at read ⊢
    exact read
  | @positive w f e hw hf he more =>
    have read := numeral_positive hw hf he ends
    have spelled : (f.isEmpty && e.isEmpty) = false := by
      rw [Bool.and_eq_false_iff]
      simpa using more
    rw [spelled] at read
    simp only [List.append_assoc] at read ⊢
    exact read

/-- A character that a number starts with. -/
def startsNumber (c : Char) : Bool := c.isDigit || c == '-'

theorem IsDigits.front {ds : Text} (h : IsDigits ds) :
    ∃ (c : Char) (cs : Text), ds = c :: cs ∧ startsNumber c = true := by
  obtain ⟨c, cs, rfl⟩ := List.exists_cons_of_ne_nil h.some_digit
  have digit : c.isDigit = true := h.digits c List.mem_cons_self
  exact ⟨c, cs, rfl, by simp [startsNumber, digit]⟩

theorem decimal_front (n : Nat) :
    ∃ (c : Char) (cs : Text), Text.decimal n = c :: cs ∧ startsNumber c = true :=
  (decimal_whole n).toIsDigits.front

theorem IsNumber.front {t : Text} (h : IsNumber t) :
    ∃ (c : Char) (cs : Text), t = c :: cs ∧ startsNumber c = true := by
  cases h with
  | negative => exact ⟨'-', _, rfl, rfl⟩
  | positive hw =>
    obtain ⟨c, cs, rfl, starts⟩ := hw.toIsDigits.front
    exact ⟨c, _, rfl, starts⟩

/-! ## Values -/

/-- A value whose numbers are spelled as numbers are. -/
inductive Plain : Json → Prop
  | null : Plain .null
  | bool (b : Bool) : Plain (.bool b)
  | natural (n : Nat) : Plain (.natural n)
  | number {spelling : Text} (h : IsNumber spelling) : Plain (.number spelling)
  | string (s : Quoted) : Plain (.string s)
  | array {items : List Json} (h : ∀ x ∈ items, Plain x) : Plain (.array items)
  | object {members : List (Quoted × Json)} (h : ∀ m ∈ members, Plain m.2) :
    Plain (.object members)

/-- Whether a text has only the blanks that JSON allows between its words. -/
def OnlySpace (t : Text) : Prop := ∀ c ∈ t, isSpace c = true

/-- A layout that writes nothing but blanks between the words of a value. -/
structure Layout.Blank (l : Layout) : Prop where
  breakAt : ∀ depth : Nat, OnlySpace (l.breakAt depth)
  afterColon : OnlySpace l.afterColon

theorem Layout.compact_blank : Layout.compact.Blank :=
  ⟨fun _ _ h => absurd h List.not_mem_nil, fun _ h => absurd h List.not_mem_nil⟩

theorem Layout.indented_blank : Layout.indented.Blank := by
  refine ⟨fun depth c h => ?_, fun c h => ?_⟩
  · rcases List.mem_cons.1 h with rfl | h
    · rfl
    · rw [List.eq_of_mem_replicate h]
      rfl
  · rw [List.mem_singleton.1 h]
    rfl

theorem skip_space {b : Text} (h : OnlySpace b) (t : Text) : skip (b ++ t) = skip t :=
  List.dropWhile_append_of_pos h

theorem skip_word {c : Char} (h : isSpace c = false) (t : Text) : skip (c :: t) = c :: t := by
  simp [skip, h]

theorem value_space {b : Text} (h : OnlySpace b) (n : Nat) (t : Text) :
    value? n (b ++ t) = value? n t := by
  cases n with
  | zero => rfl
  | succ n => rw [value?, value?, skip_space h]

theorem items_space {b : Text} (h : OnlySpace b) (n : Nat) (t : Text) :
    items? n (b ++ t) = items? n t := by
  cases n with
  | zero => rfl
  | succ n => rw [items?, items?, value_space h]

theorem members_space {b : Text} (h : OnlySpace b) (n : Nat) (t : Text) :
    members? n (b ++ t) = members? n t := by
  cases n with
  | zero => rfl
  | succ n => rw [members?, members?, skip_space h]

theorem ends_number_space {b rest : Text} (h : OnlySpace b) (ends : EndsNumber rest) :
    EndsNumber (b ++ rest) := by
  cases b with
  | nil => exact ends
  | cons c b =>
    intro d hd
    obtain rfl : c = d := by simpa using hd
    have space := h c List.mem_cons_self
    simp only [isSpace, Bool.or_eq_true, beq_iff_eq] at space
    rcases space with ((rfl | rfl) | rfl) | rfl <;> decide

theorem number_no_space {c : Char} (starts : startsNumber c = true) : isSpace c = false := by
  rw [Bool.eq_false_iff]
  intro space
  simp only [isSpace, Bool.or_eq_true, beq_iff_eq] at space
  rcases space with ((rfl | rfl) | rfl) | rfl <;> exact absurd starts (by decide)

theorem value_number (n : Nat) {c : Char} (starts : startsNumber c = true) (t : Text) :
    value? (n + 1) (c :: t) = numeral? (c :: t) := by
  rw [value?, skip_word (number_no_space starts)]
  split
  case h_7 => rfl
  all_goals
    rename_i h
    obtain ⟨rfl, -⟩ := List.cons.inj h
    exact absurd starts (by decide)

/-- The value is read back from its text in a layout, whatever follows that does not go on with a
number. -/
def ReadsBack (l : Layout) (j : Json) : Prop :=
  ∀ (depth n : Nat) (rest : Text), EndsNumber rest → 2 * (renderAt l depth j).length ≤ n →
    value? n (renderAt l depth j ++ rest) = some (j, rest)

section Items
variable {l : Layout} (blank : l.Blank)
include blank

theorem items_render {x : Json} {xs : List Json} (h : ∀ y ∈ x :: xs, ReadsBack l y) (depth : Nat)
    {close : Text} (hc : OnlySpace close) (rest : Text) {n : Nat}
    (fuel : 2 * (renderAt l depth x).length + 2 * (renderItems l depth xs).length + 2 ≤ n) :
    items? n (renderAt l depth x ++ (renderItems l depth xs ++ (close ++ ']' :: rest))) =
      some (x :: xs, rest) := by
  induction xs generalizing x n with
  | nil =>
    obtain ⟨n, rfl⟩ : ∃ m, n = m + 1 := ⟨n - 1, by omega⟩
    have ends : EndsNumber (close ++ ']' :: rest) := ends_number_space hc (by simp [EndsNumber])
    rw [renderItems, List.nil_append, items?, h x List.mem_cons_self depth n _ ends (by omega)]
    simp only [Option.bind_eq_bind, Option.bind_some]
    rw [skip_space hc, skip_word (by decide)]
    rfl
  | cons y ys ih =>
    -- Each step of the list is paid for by its comma, each value by its own text.
    obtain ⟨n, rfl⟩ : ∃ m, n = m + 1 := ⟨n - 1, by omega⟩
    rw [renderItems, List.length_cons, List.length_append, List.length_append] at fuel
    rw [renderItems, items?, List.cons_append,
      h x List.mem_cons_self depth n _ (by simp [EndsNumber]) (by omega)]
    simp only [Option.bind_eq_bind, Option.bind_some]
    rw [skip_word (by decide)]
    simp only [List.append_assoc]
    rw [items_space (blank.breakAt depth),
      ih (fun z hz => h z (List.mem_cons_of_mem x hz)) (by omega)]
    rfl

/-- The first member is read, and what stands behind its value decides whether more follow. -/
theorem members_first (k : Quoted) {x : Json} (hx : ReadsBack l x) (depth : Nat) {tail : Text}
    (ends : EndsNumber tail) {n : Nat} (fuel : 2 * (renderAt l depth x).length ≤ n) :
    members? (n + 1) (quote k ++ ':' :: (l.afterColon ++ renderAt l depth x ++ tail)) =
      match skip tail with
      | ',' :: t => do
        let (ms, t) ← members? n t
        return ((k, x) :: ms, t)
      | '}' :: t => return ([(k, x)], t)
      | _ => none := by
  obtain ⟨t, opened, read⟩ := quoted_quote k (':' :: (l.afterColon ++ renderAt l depth x ++ tail))
  rw [opened, members?, skip_word (by decide)]
  simp only [Option.bind_eq_bind, read, Option.bind_some]
  rw [skip_word (by decide)]
  simp only [List.append_assoc]
  rw [value_space blank.afterColon, hx depth n _ ends fuel]
  rfl

theorem members_render (k : Quoted) {x : Json} {ms : List (Quoted × Json)} (hx : ReadsBack l x)
    (h : ∀ m ∈ ms, ReadsBack l m.2) (depth : Nat) {close : Text} (hc : OnlySpace close)
    (rest : Text) {n : Nat}
    (fuel : 2 * (renderAt l depth x).length + 2 * (renderMembers l depth ms).length + 2 ≤ n) :
    members? n (quote k ++ ':' :: (l.afterColon ++ renderAt l depth x ++
      (renderMembers l depth ms ++ (close ++ '}' :: rest)))) = some ((k, x) :: ms, rest) := by
  obtain ⟨n, rfl⟩ : ∃ m, n = m + 1 := ⟨n - 1, by omega⟩
  induction ms generalizing k x n with
  | nil =>
    have ends : EndsNumber (close ++ '}' :: rest) := ends_number_space hc (by simp [EndsNumber])
    rw [renderMembers, List.nil_append, members_first blank k hx depth ends (by omega),
      skip_space hc, skip_word (by decide)]
    rfl
  | cons m ms ih =>
    obtain ⟨key, y⟩ := m
    simp only [renderMembers, List.length_cons, List.length_append] at fuel
    obtain ⟨n, rfl⟩ : ∃ m, n = m + 1 := ⟨n - 1, by omega⟩
    have hy : ReadsBack l y := h (key, y) List.mem_cons_self
    have more := ih key hy (fun m hm => h m (List.mem_cons_of_mem _ hm)) n (by omega)
    rw [renderMembers, List.cons_append, members_first blank k hx depth (by simp [EndsNumber]) (by omega),
      skip_word (by decide)]
    simp only [List.append_assoc, List.cons_append] at more ⊢
    rw [members_space (blank.breakAt depth), more]
    rfl

end Items

/-- A plain value starts with a character that neither is a blank nor closes a list. -/
theorem render_front {j : Json} (plain : Plain j) (l : Layout) (depth : Nat) :
    ∃ (c : Char) (cs : Text), renderAt l depth j = c :: cs ∧ isSpace c = false ∧ c ≠ ']' := by
  cases plain with
  | null => exact ⟨'n', _, rfl, by decide, by decide⟩
  | bool b =>
    cases b with
    | false => exact ⟨'f', _, rfl, by decide, by decide⟩
    | true => exact ⟨'t', _, rfl, by decide, by decide⟩
  | natural n =>
    obtain ⟨c, cs, e, starts⟩ := decimal_front n
    refine ⟨c, cs, by rw [renderAt, e], number_no_space starts, ?_⟩
    exact fun h => absurd (h ▸ starts) (by decide)
  | number h =>
    obtain ⟨c, cs, e, starts⟩ := h.front
    refine ⟨c, cs, by rw [renderAt, e], number_no_space starts, ?_⟩
    exact fun h => absurd (h ▸ starts) (by decide)
  | string s =>
    obtain ⟨t, e, -⟩ := quoted_quote s []
    rw [List.append_nil] at e
    exact ⟨'"', t, by rw [renderAt, e], by decide, by decide⟩
  | @array items h =>
    cases items with
    | nil => exact ⟨'[', [']'], by rw [renderAt]; rfl, by decide, by decide⟩
    | cons x xs => exact ⟨'[', _, by rw [renderAt], by decide, by decide⟩
  | @object members h =>
    cases members with
    | nil => exact ⟨'{', ['}'], by rw [renderAt]; rfl, by decide, by decide⟩
    | cons m ms => exact ⟨'{', _, by rw [renderAt], by decide, by decide⟩

theorem value_string (n : Nat) (t : Text) :
    value? (n + 1) ('"' :: t) = (quoted? t).map fun r => (.string r.1, r.2) := by
  rw [value?, skip_word (by decide)]
  rfl

theorem value_array {b : Text} (hb : OnlySpace b) {c : Char} (word : isSpace c = false)
    (more : c ≠ ']') (n : Nat) (t : Text) :
    value? (n + 1) ('[' :: (b ++ c :: t)) = (items? n (c :: t)).map fun r => (.array r.1, r.2) := by
  rw [value?, skip_word (by decide)]
  simp only [skip_space hb, skip_word word]
  split
  next h => exact absurd (List.cons.inj h).1 more
  next => rfl

theorem value_object {b : Text} (hb : OnlySpace b) (n : Nat) (t : Text) :
    value? (n + 1) ('{' :: (b ++ '"' :: t)) =
      (members? n ('"' :: t)).map fun r => (.object r.1, r.2) := by
  have word : skip ('"' :: t) = '"' :: t := skip_word (by decide) t
  rw [value?, skip_word (by decide)]
  simp only [skip_space hb, word]
  rfl

/-- The text of a value is not empty, so that there is something to count down. -/
theorem fuel_succ {j : Json} (plain : Plain j) {l : Layout} {depth n : Nat}
    (fuel : 2 * (renderAt l depth j).length ≤ n) : ∃ m, n = m + 1 := by
  obtain ⟨c, cs, e, -⟩ := render_front plain l depth
  rw [e, List.length_cons] at fuel
  exact ⟨n - 1, by omega⟩

theorem value_render {l : Layout} (blank : l.Blank) {j : Json} (plain : Plain j) : ReadsBack l j := by
  -- A list or an object is read by its first character; its parts are read back at any depth.
  induction plain with
  | null =>
    intro depth n rest _ fuel
    obtain ⟨n, rfl⟩ := fuel_succ .null fuel
    rw [renderAt, value?]
    rfl
  | bool b =>
    intro depth n rest _ fuel
    obtain ⟨n, rfl⟩ := fuel_succ (.bool b) fuel
    cases b <;> rw [renderAt, value?] <;> rfl
  | natural m =>
    intro depth n rest ends fuel
    obtain ⟨n, rfl⟩ := fuel_succ (.natural m) fuel
    have read := numeral_decimal m ends
    obtain ⟨c, cs, e, starts⟩ := decimal_front m
    rw [renderAt]
    rw [e] at read ⊢
    exact (value_number n starts _).trans read
  | number h =>
    intro depth n rest ends fuel
    obtain ⟨n, rfl⟩ := fuel_succ (.number h) fuel
    have read := numeral_number h ends
    obtain ⟨c, cs, e, starts⟩ := h.front
    rw [renderAt]
    rw [e] at read ⊢
    exact (value_number n starts _).trans read
  | string s =>
    intro depth n rest _ fuel
    obtain ⟨n, rfl⟩ := fuel_succ (.string s) fuel
    obtain ⟨t, e, read⟩ := quoted_quote s rest
    rw [renderAt, e, value_string, read]
    rfl
  | @array items h ih =>
    intro depth n rest _ fuel
    obtain ⟨n, rfl⟩ := fuel_succ (.array h) fuel
    cases items with
    | nil =>
      rw [renderAt, value?]
      rfl
    | cons x xs =>
      obtain ⟨c, cs, e, word, more⟩ := render_front (h x List.mem_cons_self) l (depth + 1)
      simp only [renderAt, List.length_cons, List.length_append] at fuel
      have read := items_render blank ih (depth + 1) (blank.breakAt depth) rest (n := n) (by omega)
      rw [renderAt]
      rw [e] at read ⊢
      simp only [List.append_assoc, List.cons_append, List.nil_append] at read ⊢
      rw [value_array (blank.breakAt (depth + 1)) word more, read]
      rfl
  | @object members h ih =>
    intro depth n rest _ fuel
    obtain ⟨n, rfl⟩ := fuel_succ (.object h) fuel
    cases members with
    | nil =>
      rw [renderAt, value?]
      rfl
    | cons m ms =>
      obtain ⟨k, x⟩ := m
      have hx : ReadsBack l x := ih (k, x) List.mem_cons_self
      have hms : ∀ m ∈ ms, ReadsBack l m.2 := fun m hm => ih m (List.mem_cons_of_mem _ hm)
      simp only [renderAt, List.length_cons, List.length_append] at fuel
      have read := members_render blank k hx hms (depth + 1) (blank.breakAt depth) rest (n := n)
        (by omega)
      obtain ⟨t, e, -⟩ := quoted_quote k (':' :: (l.afterColon ++ renderAt l (depth + 1) x ++
        (renderMembers l (depth + 1) ms ++ (l.breakAt depth ++ '}' :: rest))))
      rw [e] at read
      rw [renderAt]
      simp only [List.append_assoc, List.cons_append, List.nil_append] at e ⊢
      rw [e, value_object (blank.breakAt (depth + 1)), read]
      rfl

theorem parse_render_space {l : Layout} (blank : l.Blank) {j : Json} (plain : Plain j) {b : Text}
    (h : OnlySpace b) : parse? (render l j ++ b) = some j := by
  have ends : EndsNumber b := by
    rw [← List.append_nil b]
    exact ends_number_space h (by simp [EndsNumber])
  have read := value_render blank plain 0 (2 * (renderAt l 0 j ++ b).length + 1) b ends (by
    rw [List.length_append]
    omega)
  have blanks : skip b = [] := by
    rw [← List.append_nil b]
    exact skip_space h []
  rw [parse?, render, read]
  simp [blanks]

theorem parse_render {l : Layout} (blank : l.Blank) {j : Json} (plain : Plain j) :
    parse? (render l j) = some j := by
  have read := parse_render_space blank plain (b := []) fun c h => absurd h List.not_mem_nil
  rw [List.append_nil] at read
  exact read

end Backlog.Json
