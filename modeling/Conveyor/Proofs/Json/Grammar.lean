import Conveyor.Json.Reader
import Conveyor.Json.Value
import Mathlib.Data.List.TakeDrop
import Mathlib.Tactic.Common

/-!
# Well-formed documents

The grammar of documents, without regard to what they mean: `WellFormed` texts are the texts of
values. Characters can be spelled in several ways (`TextSpelling`), and a text that nobody reads may
hold more (`TextBody`). Whatever is well-formed is passed over as a whole, however deep it is nested
(`skipValue_wellFormed`).
-/

namespace Conveyor.Json

open Value (commaSeparated writeBool)

variable {s t before blanks rest k cs : List Char} {c e : Char}

/-! ### Blanks -/

def Blanks (s : List Char) : Prop := ∀ c ∈ s, isBlank c

/-- Whether a token that stands before a text has come to its end. -/
def Closes (s : List Char) : Prop := ∀ c ∈ s.head?, isBlank c ∨ c ∈ [',', ']', '\x7d']

@[simp] lemma blanks_nil : Blanks [] := nofun

@[simp] lemma blanks_append : Blanks (s ++ t) ↔ Blanks s ∧ Blanks t := by
  simp [Blanks, or_imp, forall_and]

lemma skipBlanks_append (h : Blanks blanks) (s : List Char) :
    skipBlanks (blanks ++ s) = skipBlanks s :=
  List.dropWhile_append_of_pos h

lemma skipBlanks_cons (h : isBlank c = false) (s : List Char) : skipBlanks (c :: s) = c :: s := by
  simp [skipBlanks, h]

lemma closes_cons (h : c ∈ [',', ']', '\x7d']) : Closes (c :: s) := by
  rintro c' ⟨⟩
  exact .inr h

lemma closes_append (hb : Blanks blanks) (h : Closes s) : Closes (blanks ++ s) := by
  cases blanks with
  | nil => exact h
  | cons c blanks =>
    rintro c' ⟨⟩
    exact .inl (hb c List.mem_cons_self)

/-! ### Separators -/

/-- What stands before an element: a comma, unless it is the first. -/
def lead (first : Bool) : List Char := if first then [] else [',']

/-- The elements that are still to come, with what stands before each of them. -/
def upcoming (first : Bool) (pieces : List (List Char)) : List Char :=
  if first then commaSeparated pieces else pieces.flatMap (',' :: ·)

@[simp] lemma upcoming_nil (first : Bool) : upcoming first [] = [] := by cases first <;> rfl

lemma commaSeparated_cons (piece : List Char) (pieces : List (List Char)) :
    commaSeparated (piece :: pieces) = piece ++ upcoming false pieces := by
  induction pieces generalizing piece with
  | nil => simp [commaSeparated]
  | cons next pieces ih => simp [commaSeparated, ih next, upcoming]

lemma upcoming_cons (first : Bool) (piece : List Char) (pieces : List (List Char)) :
    upcoming first (piece :: pieces) = lead first ++ (piece ++ upcoming false pieces) := by
  cases first with
  | true => exact commaSeparated_cons piece pieces
  | false => rfl

/-- A text with some pieces and an end has more characters than there are pieces. -/
lemma length_lt_commaSeparated (pieces : List (List Char)) (blanks : List Char) (c : Char)
    (rest : List Char) :
    pieces.length < (commaSeparated pieces ++ (blanks ++ c :: rest)).length + 1 := by
  have later : ∀ pieces : List (List Char), pieces.length ≤ (upcoming false pieces).length := by
    intro pieces
    induction pieces with
    | nil => exact Nat.zero_le _
    | cons piece pieces ih =>
      have comma : (lead false).length = 1 := rfl
      rw [upcoming_cons]
      simp only [List.length_append, List.length_cons, comma]
      omega
  cases pieces with
  | nil => exact Nat.zero_lt_succ _
  | cons piece pieces =>
    have := later pieces
    rw [commaSeparated_cons]
    simp only [List.length_append, List.length_cons]
    omega

lemma closes_upcoming (pieces : List (List Char)) (blank : Blanks blanks)
    (h : c ∈ [',', ']', '\x7d']) : Closes (upcoming false pieces ++ (blanks ++ c :: rest)) := by
  cases pieces with
  | nil =>
    rw [upcoming_nil, List.nil_append]
    exact closes_append blank (closes_cons h)
  | cons piece pieces => exact closes_cons (by decide)

/-! ### Texts -/

/-- Whether a character may stand in a text as it is. -/
def Plain (c : Char) : Prop := c ≠ '"' ∧ c ≠ '\\' ∧ ¬c < ' '

/-- The ways to write the characters of a text, up to the closing quotation mark. -/
inductive TextSpelling : (characters : List Char) → List Char → Prop
  | nil : TextSpelling [] ['"']
  | plain {c : Char} {cs s : List Char} (h : Plain c) (later : TextSpelling cs s) :
    TextSpelling (c :: cs) (c :: s)
  | simple {e c : Char} {cs s : List Char} (h : simpleEscape? e = some c)
      (later : TextSpelling cs s) : TextSpelling (c :: cs) ('\\' :: e :: s)
  | unit {a b c d : Char} {unit : Nat} {cs s : List Char} (h : hexUnit? a b c d = some unit)
      (whole : ¬isLeading unit ∧ ¬isTrailing unit) (later : TextSpelling cs s) :
      TextSpelling (.ofNat unit :: cs) ('\\' :: 'u' :: a :: b :: c :: d :: s)
  | pair {a b c d a' b' c' d' : Char} {unit unit' : Nat} {cs s : List Char}
      (h : hexUnit? a b c d = some unit) (leading : isLeading unit)
      (h' : hexUnit? a' b' c' d' = some unit') (trailing : isTrailing unit')
      (later : TextSpelling cs s) :
      TextSpelling (ofSurrogates unit unit' :: cs)
        ('\\' :: 'u' :: a :: b :: c :: d :: '\\' :: 'u' :: a' :: b' :: c' :: d' :: s)

/-- What may stand behind an opening quotation mark, up to the closing one. -/
inductive TextBody : List Char → Prop
  | nil : TextBody ['"']
  | plain {c : Char} {s : List Char} (h : Plain c) (later : TextBody s) : TextBody (c :: s)
  | simple {e c : Char} {s : List Char} (h : simpleEscape? e = some c) (later : TextBody s) :
    TextBody ('\\' :: e :: s)
  | unit {a b c d : Char} {unit : Nat} {s : List Char} (h : hexUnit? a b c d = some unit)
      (later : TextBody s) : TextBody ('\\' :: 'u' :: a :: b :: c :: d :: s)

lemma TextSpelling.body (h : TextSpelling cs s) : TextBody s := by
  induction h with
  | nil => exact .nil
  | plain h _ ih => exact .plain h ih
  | simple h _ ih => exact .simple h ih
  | unit h _ _ ih => exact .unit h ih
  | pair h _ h' _ _ ih => exact .unit h (.unit h' ih)

lemma readText_plain {c : Char} (quote : c ≠ '"') (backslash : c ≠ '\\') (printable : ¬c < ' ')
    (s : List Char) : readText (c :: s) = (readText s).map fun x => (c :: x.1, x.2) := by
  rw [readText.eq_def]
  split <;> simp_all [-Char.not_lt]

lemma readText_simple (h : simpleEscape? e = some c) (s : List Char) :
    readText ('\\' :: e :: s) = (readText s).map fun x => (c :: x.1, x.2) := by
  unfold simpleEscape? at h
  split at h <;> cases h <;> exact readText.eq_def _

lemma skipText_simple (h : simpleEscape? e = some c) (s : List Char) :
    skipText ('\\' :: e :: s) = skipText s := by
  unfold simpleEscape? at h
  split at h <;> cases h <;> exact skipText.eq_def _

lemma isTrailing_of_isLeading {unit : Nat} (h : isLeading unit) : isTrailing unit = false := by
  simp only [isLeading, isTrailing, Bool.and_eq_true, decide_eq_true_eq, Bool.and_eq_false_iff,
    decide_eq_false_iff_not] at h ⊢
  omega

/-- However a text is written, it is read as its characters. -/
lemma readText_spelling (h : TextSpelling cs s) (rest : List Char) :
    readText (s ++ rest) = .ok (cs, rest) := by
  induction h with
  | nil => rfl
  | plain h _ ih =>
    rw [List.cons_append, readText_plain h.1 h.2.1 h.2.2, ih]
    rfl
  | simple h _ ih =>
    rw [List.cons_append, List.cons_append, readText_simple h, ih]
    rfl
  | unit h whole _ ih => simp [readText, h, whole, ih, Except.map]
  | pair h leading h' trailing _ ih =>
    have first := isTrailing_of_isLeading leading
    simp [readText, h, h', leading, trailing, ih, Except.map, first]

lemma skipText_body (h : TextBody s) (rest : List Char) : skipText (s ++ rest) = .ok rest := by
  induction h with
  | nil => rfl
  | plain h _ ih =>
    obtain ⟨quote, backslash, printable⟩ := h
    rw [List.cons_append, skipText.eq_def]
    split <;> simp_all [-Char.not_lt]
  | simple h _ ih =>
    rw [List.cons_append, List.cons_append, skipText_simple h]
    exact ih
  | unit h _ ih => simp [skipText, h, ih]

lemma hexUnit?_hexChar :
    ∀ n < 32, hexUnit? '0' '0' (hexChar (n / 16)) (hexChar (n % 16)) = some n := by
  decide

/-- The escape of a character is one way to write it. -/
lemma textSpelling_escape_append (c : Char) (later : TextSpelling cs s) :
    TextSpelling (c :: cs) (escape c ++ s) := by
  unfold escape
  split
  case h_8 quote backslash _ _ _ _ _ =>
    split
    case isTrue control =>
      have small : c.toNat < 32 := control
      have whole : ¬isLeading c.toNat ∧ ¬isTrailing c.toNat := by
        simp only [isTrailing, isLeading, Bool.and_eq_true, decide_eq_true_eq]
        omega
      have spelled := TextSpelling.unit (hexUnit?_hexChar _ small) whole later
      rwa [Char.ofNat_toNat] at spelled
    case isFalse printable => exact .plain ⟨quote, backslash, printable⟩ later
  all_goals exact .simple rfl later

lemma textSpelling_escape (cs : List Char) : TextSpelling cs (cs.flatMap escape ++ ['"']) := by
  induction cs with
  | nil => exact .nil
  | cons c cs ih =>
    rw [List.flatMap_cons, List.append_assoc]
    exact textSpelling_escape_append c ih

/-! ### Numbers -/

/-- Whether a text consists of digits, of which there is at least one. -/
def Digits (s : List Char) : Prop := s ≠ [] ∧ ∀ c ∈ s, c.isDigit

/-- The ways to write what may stand behind the whole part of a number: a point and digits, or
nothing. -/
inductive Fraction : Option (List Char) → List Char → Prop
  | none : Fraction none []
  | some {ds : List Char} (digits : Digits ds) : Fraction (some ds) ('.' :: ds)

/-- The ways to write an exponent, with its sign, or none. -/
inductive Exponent : Option (Bool × List Char) → List Char → Prop
  | none : Exponent none []
  | some {e : Char} {sign ds : List Char} (letter : e = 'e' ∨ e = 'E')
      (signed : sign = [] ∨ sign = ['+'] ∨ sign = ['-']) (digits : Digits ds) :
      Exponent (some (decide (sign = ['-']), ds)) (e :: (sign ++ ds))

/-- The ways to write a number. Before the point there are no zeros but a single one. -/
inductive NumberText : Number → List Char → Prop
  | intro {sign whole fraction exponent : List Char} {f : Option (List Char)}
      {e : Option (Bool × List Char)} (signed : sign = [] ∨ sign = ['-'])
      (digits : Digits whole) (leading : whole = ['0'] ∨ whole.head? ≠ some '0')
      (pointed : Fraction f fraction) (raised : Exponent e exponent) :
      NumberText ⟨decide (sign = ['-']), whole, f, e⟩ (sign ++ (whole ++ (fraction ++ exponent)))

/-- Whether no number goes on in a text. -/
def NoNumber (s : List Char) : Prop := ∀ c ∈ s.head?, ¬c.isDigit ∧ c ∉ ['.', 'e', 'E']

lemma Closes.noNumber (h : Closes s) : NoNumber s := by
  intro c hc
  rcases h c hc with blank | closing
  · simp only [isBlank, Bool.or_eq_true, decide_eq_true_eq] at blank
    rcases blank with ((rfl | rfl) | rfl) | rfl <;> decide
  · simp only [List.mem_cons, List.not_mem_nil, or_false] at closing
    rcases closing with rfl | rfl | rfl <;> decide

/-- Whether no digit and no point stands next. -/
def Stops (s : List Char) : Prop := ∀ c ∈ s.head?, ¬c.isDigit ∧ c ≠ '.'

lemma Exponent.stops {n : Option (Bool × List Char)} (h : Exponent n s) (ends : NoNumber rest) :
    Stops (s ++ rest) := by
  cases h with
  | none =>
    intro c hc
    obtain ⟨digit, other⟩ := ends c hc
    exact ⟨digit, fun e => other (by simp [e])⟩
  | some letter signed digits =>
    rintro c ⟨⟩
    rcases letter with rfl | rfl <;> decide

lemma Fraction.noDigit {ds : Option (List Char)} (h : Fraction ds s) (stops : Stops t) :
    ∀ c ∈ (s ++ t).head?, ¬c.isDigit := by
  cases h with
  | none => exact fun c hc => (stops c hc).1
  | some digits =>
    rintro c ⟨⟩
    decide

lemma digits_append {ds : List Char} (all : ∀ c ∈ ds, c.isDigit)
    (h : ∀ c ∈ rest.head?, ¬c.isDigit) :
    Number.digits (ds ++ rest) = (ds, rest) := by
  have stops : rest.takeWhile Char.isDigit = [] ∧ rest.dropWhile Char.isDigit = rest := by
    cases rest with
    | nil => exact ⟨rfl, rfl⟩
    | cons c rest =>
      have other : ¬c.isDigit := h c rfl
      simp [other]
  obtain ⟨taken, left⟩ := stops
  rw [Number.digits, List.span_eq_takeWhile_dropWhile, List.takeWhile_append_of_pos all,
    List.dropWhile_append_of_pos all, taken, left, List.append_nil]

lemma scanWhole_digits (atEnd : Fault) (digits : Digits s)
    (leading : s = ['0'] ∨ s.head? ≠ some '0') (h : ∀ c ∈ t.head?, ¬c.isDigit) :
    Number.scanWhole atEnd (s ++ t) = .ok (s, t) := by
  rw [Number.scanWhole, digits_append digits.2 h]
  split
  next same => exact absurd (Prod.mk.inj same).1 digits.1
  next same =>
    obtain ⟨rfl, rfl⟩ := Prod.mk.inj same
    rcases leading with single | other
    · cases single
    · exact absurd rfl other
  next same =>
    obtain ⟨rfl, rfl⟩ := Prod.mk.inj same
    rfl

lemma scanFraction_fraction (atEnd : Fault) {ds : Option (List Char)} (h : Fraction ds s)
    (stops : Stops t) : Number.scanFraction atEnd (s ++ t) = .ok (ds, t) := by
  cases h with
  | none =>
    rw [List.nil_append]
    unfold Number.scanFraction
    split
    · exact absurd rfl (stops _ rfl).2
    · rfl
  | some digits =>
    rw [List.cons_append, Number.scanFraction, digits_append digits.2 fun c hc => (stops c hc).1]
    split
    next same => exact absurd (Prod.mk.inj same).1 digits.1
    next same =>
      obtain ⟨rfl, rfl⟩ := Prod.mk.inj same
      rfl

lemma scanExponent_exponent (atEnd : Fault) {n : Option (Bool × List Char)} (h : Exponent n s)
    (ends : NoNumber rest) : Number.scanExponent atEnd (s ++ rest) = .ok (n, rest) := by
  cases h with
  | none =>
    rw [List.nil_append]
    unfold Number.scanExponent
    split
    · exact absurd (ends _ rfl).2 (by simp)
    · exact absurd (ends _ rfl).2 (by simp)
    · rfl
  | @some e sign ds letter signed digits =>
    obtain ⟨d, ds, rfl⟩ := List.exists_cons_of_ne_nil digits.1
    have scanned := digits_append digits.2 fun c hc => (ends c hc).1
    rw [List.cons_append] at scanned
    have digit := digits.2 d List.mem_cons_self
    have plus : d ≠ '+' := by
      rintro rfl
      exact absurd digit (by decide)
    have minus : d ≠ '-' := by
      rintro rfl
      exact absurd digit (by decide)
    rcases letter with rfl | rfl <;> rcases signed with rfl | rfl | rfl <;>
      simp [Number.scanExponent, scanned, plus, minus]

lemma NumberText.begins {n : Number} (h : NumberText n s) :
    ∃ c t, s = c :: t ∧ (c = '-' ∨ c.isDigit) := by
  cases h with
  | intro signed digits =>
    obtain ⟨d, ds, rfl⟩ := List.exists_cons_of_ne_nil digits.1
    rcases signed with rfl | rfl
    · exact ⟨d, _, rfl, .inr (digits.2 d List.mem_cons_self)⟩
    · exact ⟨'-', _, rfl, .inl rfl⟩

/-- However a number is written, it is scanned as a whole. -/
lemma scan_numberText (atEnd : Fault) {n : Number} (h : NumberText n s) (ends : NoNumber rest) :
    Number.scan atEnd (s ++ rest) = .ok (n, rest) := by
  cases h with
  | @intro sign whole fraction exponent f e signed digits leading pointed raised =>
    have stops := raised.stops ends
    have wholeScanned := scanWhole_digits atEnd digits leading (pointed.noDigit stops)
    have fractionScanned := scanFraction_fraction atEnd pointed stops
    have exponentScanned := scanExponent_exponent atEnd raised ends
    have unsigned (negative : Bool) : Number.scanUnsigned atEnd negative
        (whole ++ (fraction ++ (exponent ++ rest))) = .ok (⟨negative, whole, f, e⟩, rest) := by
      rw [Number.scanUnsigned, wholeScanned]
      simp [bind, Except.bind, fractionScanned, exponentScanned, pure, Except.pure]
    rw [List.append_assoc, List.append_assoc, List.append_assoc]
    rcases signed with rfl | rfl
    · refine Eq.trans ?_ (unsigned false)
      obtain ⟨d, ds, rfl⟩ := List.exists_cons_of_ne_nil digits.1
      have minus : d ≠ '-' := by
        rintro rfl
        exact absurd (digits.2 _ List.mem_cons_self) (by decide)
      rw [List.nil_append, List.cons_append]
      unfold Number.scan
      split
      next same => exact absurd (List.cons.inj same).1 minus
      next => rfl
    · exact unsigned true

/-- The digits of a number begin with a zero only if they are a single zero. -/
lemma head_toDigits (n : Nat) :
    Nat.toDigits 10 n = ['0'] ∨ ∃ d ds, Nat.toDigits 10 n = d :: ds ∧ d ≠ '0' := by
  induction n using Nat.strongRecOn with
  | ind n ih =>
    by_cases small : n < 10
    · rw [Nat.toDigits_of_lt_base small]
      by_cases zero : n.digitChar = '0'
      · exact .inl (congrArg (· :: []) zero)
      · exact .inr ⟨_, _, rfl, zero⟩
    · right
      have positive : 0 < n / 10 := by omega
      rw [Nat.toDigits_of_base_le (by decide : 1 < 10) (Nat.not_lt.mp small)]
      rcases ih (n / 10) (by omega) with zero | ⟨d, ds, hd, other⟩
      · have value : Nat.ofDigitChars 10 (Nat.toDigits 10 (n / 10)) 0 = n / 10 :=
          Nat.ofDigitChars_ten_toDigits
        rw [zero] at value
        simp [Nat.ofDigitChars] at value
        omega
      · exact ⟨d, ds ++ [(n % 10).digitChar], by rw [hd]; rfl, other⟩

lemma numberText_toDigits (n : Nat) :
    NumberText ⟨false, Nat.toDigits 10 n, none, none⟩ (Nat.toDigits 10 n) := by
  have digits : Digits (Nat.toDigits 10 n) :=
    ⟨Nat.toDigits_ne_nil, fun c hc => Nat.isDigit_of_mem_toDigits (by decide) (by decide) hc⟩
  have leading : Nat.toDigits 10 n = ['0'] ∨ (Nat.toDigits 10 n).head? ≠ some '0' := by
    rcases head_toDigits n with zero | ⟨d, ds, hd, other⟩
    · exact .inl zero
    · exact .inr (by simpa [hd] using other)
  have text := NumberText.intro (.inl rfl) digits leading .none .none
  rwa [List.nil_append, List.append_nil, List.append_nil] at text

lemma classify_toDigits {n : Nat} (h : n ≤ Number.largest) :
    Number.classify ⟨false, Nat.toDigits 10 n, none, none⟩ = .ok (.integer n) := by
  have value : Number.value (Nat.toDigits 10 n) = n := Nat.ofDigitChars_ten_toDigits
  simp [Number.classify, value, h]

/-! ### Values -/

/-- Whether a value may begin with a character. -/
def Opens (c : Char) : Prop := isBlank c = false ∧ c ∉ [',', ':', ']', '\x7d']

lemma opens_of_isDigit {c : Char} (h : c.isDigit) : Opens c := by
  refine ⟨?_, ?_⟩
  · by_contra blank
    simp only [isBlank, Bool.not_eq_false, Bool.or_eq_true, decide_eq_true_eq] at blank
    rcases blank with ((rfl | rfl) | rfl) | rfl <;> exact absurd h (by decide)
  · intro mark
    simp only [List.mem_cons, List.not_mem_nil, or_false] at mark
    rcases mark with rfl | rfl | rfl | rfl <;> exact absurd h (by decide)

def Frame.opening : Frame → Char
  | .list   => '['
  | .object => '\x7b'

/-- What stands before a value in a frame: in an object, a key and a colon. -/
inductive Frame.Key : Frame → List Char → Prop
  | list : Key .list []
  | object {k left right : List Char} (key : TextBody k) (beforeColon : Blanks left)
      (afterColon : Blanks right) : Key .object ('"' :: (k ++ (left ++ ':' :: right)))

mutual

/-- The texts of values, of any shape and depth. -/
inductive WellFormed : List Char → Prop
  | null : WellFormed ['n', 'u', 'l', 'l']
  | bool (b : Bool) : WellFormed (writeBool b)
  | number {n : Number} {s : List Char} (h : NumberText n s) : WellFormed s
  | text {s : List Char} (h : TextBody s) : WellFormed ('"' :: s)
  | nested {frame : Frame} {pieces : List (List Char)} {blanks : List Char}
      (elements : WellFormedPieces frame pieces) (blank : Blanks blanks) :
      WellFormed (frame.opening :: (commaSeparated pieces ++ (blanks ++ [frame.closing])))

/-- The pieces of text between the commas of a frame. -/
inductive WellFormedPieces : Frame → List (List Char) → Prop
  | nil {frame : Frame} : WellFormedPieces frame []
  | cons {frame : Frame} {before k s after : List Char} {pieces : List (List Char)}
      (leading : Blanks before) (key : frame.Key k) (value : WellFormed s)
      (trailing : Blanks after) (later : WellFormedPieces frame pieces) :
      WellFormedPieces frame ((before ++ (k ++ (s ++ after))) :: pieces)

end

variable {frame : Frame} {frames : List Frame} {pieces : List (List Char)} {fuel : Nat}

lemma WellFormed.begins (h : WellFormed s) : ∃ c t, s = c :: t ∧ Opens c := by
  cases h with
  | null => exact ⟨_, _, rfl, rfl, by decide⟩
  | bool b => cases b <;> exact ⟨_, _, rfl, rfl, by decide⟩
  | number h =>
    obtain ⟨c, t, rfl, minus | digit⟩ := h.begins
    · exact ⟨c, t, rfl, minus ▸ ⟨rfl, by decide⟩⟩
    · exact ⟨c, t, rfl, opens_of_isDigit digit⟩
  | text h => exact ⟨_, _, rfl, rfl, by decide⟩
  | @nested frame => exact ⟨_, _, rfl, by cases frame <;> exact ⟨rfl, by decide⟩⟩

/-! ### Passing over values -/

/-- A key is passed over, up to the blanks before the value. -/
lemma skipKey_key (key : frame.Key k) (leading : Blanks before) (t : List Char) :
    ∃ inner, Blanks inner ∧ frame.skipKey (before ++ (k ++ t)) = .ok (inner ++ t) := by
  cases key with
  | list => exact ⟨before, leading, rfl⟩
  | @object k left right key beforeColon afterColon =>
    refine ⟨right, afterColon, ?_⟩
    simp only [List.cons_append, List.append_assoc]
    rw [Frame.skipKey, skipBlanks_append leading, skipBlanks_cons rfl]
    simp [skipText_body key, skipBlanks_append beforeColon, skipBlanks_cons (c := ':') rfl, bind,
      Except.bind]

/-- What stands between two commas of a frame begins with neither a comma nor the end. -/
lemma piece_begins (key : frame.Key k) (value : WellFormed s) (t : List Char) :
    ∃ c u, k ++ (s ++ t) = c :: u ∧ isBlank c = false ∧ c ≠ ',' ∧ c ≠ frame.closing := by
  cases key with
  | list =>
    obtain ⟨c, u, rfl, blank, mark⟩ := value.begins
    refine ⟨c, u ++ t, rfl, blank, ?_, ?_⟩
    · rintro rfl
      exact mark (by decide)
    · rintro rfl
      exact mark (by decide)
  | object => exact ⟨_, _, rfl, rfl, by decide, by decide⟩

lemma skipRest_end (afterValue : Bool) (blank : Blanks blanks) :
    skipRest (fuel + 1) afterValue (frame :: frames) (blanks ++ frame.closing :: rest) =
      skipRest fuel true frames rest := by
  have solid : isBlank frame.closing = false := by cases frame <;> rfl
  have noComma : frame.closing ≠ ',' := by cases frame <;> decide
  rw [skipRest, skipBlanks_append blank, skipBlanks_cons solid]
  simp [noComma]

/-- The next piece of a frame is entered. -/
lemma skipRest_piece (first : Bool) (blank : Blanks blanks) (leading : Blanks before)
    (key : frame.Key k) (value : WellFormed s) :
    ∃ inner, Blanks inner ∧
      skipRest (fuel + 1) (!first) (frame :: frames)
          (blanks ++ (lead first ++ (before ++ (k ++ (s ++ t))))) =
        skipIn fuel (frame :: frames) (inner ++ (s ++ t)) := by
  cases first with
  | true =>
    obtain ⟨inner, hinner, passed⟩ := skipKey_key key blanks_nil (s ++ t)
    obtain ⟨c, u, begins, solid, noComma, noEnd⟩ := piece_begins key value t
    refine ⟨inner, hinner, ?_⟩
    rw [List.nil_append, begins] at passed
    rw [lead, if_pos rfl, List.nil_append, begins, skipRest, skipBlanks_append blank,
      skipBlanks_append leading, skipBlanks_cons solid]
    simp [noEnd, passed, bind, Except.bind]
  | false =>
    obtain ⟨inner, hinner, passed⟩ := skipKey_key key leading (s ++ t)
    refine ⟨inner, hinner, ?_⟩
    rw [lead, if_neg (by simp), skipRest, skipBlanks_append blank, List.singleton_append,
      skipBlanks_cons rfl]
    simp [passed, bind, Except.bind]

lemma skipIn_scalar (leading : Blanks before) (begins : s = c :: t) (solid : isBlank c = false)
    (noFrame : ∀ frame : Frame, c ≠ frame.opening) (passed : skipScalar (s ++ rest) = .ok rest) :
    skipIn (fuel + 1) frames (before ++ (s ++ rest)) = skipRest fuel true frames rest := by
  subst begins
  rw [List.cons_append] at passed ⊢
  have noList : c ≠ '[' := noFrame .list
  have noObject : c ≠ '\x7b' := noFrame .object
  rw [skipIn, skipBlanks_append leading, skipBlanks_cons solid]
  split
  next same => exact absurd (List.cons.inj same).1 noList
  next same => exact absurd (List.cons.inj same).1 noObject
  next => simp [passed, bind, Except.bind]

lemma skipIn_opening (leading : Blanks before) :
    skipIn (fuel + 1) frames (before ++ frame.opening :: t) =
      skipRest fuel false (frame :: frames) t := by
  have solid : isBlank frame.opening = false := by cases frame <;> rfl
  rw [skipIn, skipBlanks_append leading, skipBlanks_cons solid]
  cases frame <;> rfl

/-- Whether a value is passed over in no more than two steps for each of its characters. -/
def Passed (s : List Char) : Prop :=
  ∃ steps ≤ 2 * s.length, ∀ ⦃fuel frames before rest⦄, Blanks before → Closes rest →
    skipIn (fuel + steps) frames (before ++ (s ++ rest)) = skipRest fuel true frames rest

/-- Whether these pieces of a frame are passed over likewise, and then its end. -/
def PassedPieces (frame : Frame) (pieces : List (List Char)) : Prop :=
  ∀ first, ∃ steps ≤ 2 * (upcoming first pieces).length + (if first then 2 else 1),
    ∀ ⦃fuel frames blanks rest⦄ ⦃before : List Char⦄, Blanks before → Blanks blanks →
      skipRest (fuel + steps) (!first) (frame :: frames)
          (before ++ (upcoming first pieces ++ (blanks ++ frame.closing :: rest))) =
        skipRest fuel true frames rest

lemma passed_scalar (begins : s = c :: t) (solid : isBlank c = false)
    (noFrame : ∀ frame : Frame, c ≠ frame.opening)
    (passed : ∀ rest, Closes rest → skipScalar (s ++ rest) = .ok rest) : Passed s := by
  refine ⟨1, ?_, ?_⟩
  · simp only [begins, List.length_cons]
    omega
  · intro fuel frames before rest leading closed
    exact skipIn_scalar leading begins solid noFrame (passed rest closed)

lemma passed_number {n : Number} (h : NumberText n s) : Passed s := by
  obtain ⟨c, t, begins, first⟩ := h.begins
  have solid : isBlank c = false := by
    rcases first with rfl | digit
    · rfl
    · exact (opens_of_isDigit digit).1
  have other : c ∉ ['[', '\x7b', 'n', 't', 'f', '"'] := by
    intro mark
    simp only [List.mem_cons, List.not_mem_nil, or_false] at mark
    rcases mark with rfl | rfl | rfl | rfl | rfl | rfl <;> exact absurd first (by decide)
  simp only [List.mem_cons, List.not_mem_nil, or_false, not_or] at other
  obtain ⟨noList, noObject, noNull, noTrue, noFalse, noText⟩ := other
  have noFrame : ∀ frame : Frame, c ≠ frame.opening := fun frame => by cases frame <;> assumption
  refine passed_scalar begins solid noFrame fun rest closed => ?_
  have scanned := scan_numberText .invalidNumber h closed.noNumber
  rw [begins, List.cons_append] at scanned ⊢
  unfold skipScalar
  split
  next same => exact absurd (List.cons.inj same).1 noNull
  next same => exact absurd (List.cons.inj same).1 noTrue
  next same => exact absurd (List.cons.inj same).1 noFalse
  next same => exact absurd (List.cons.inj same).1 noText
  next same =>
    obtain ⟨rfl, rfl⟩ := List.cons.inj same
    rw [if_pos first, scanned]
    rfl
  next same => cases same

lemma passedPieces_nil : PassedPieces frame [] := by
  intro first
  refine ⟨1, by split <;> omega, fun fuel frames blanks rest before leading blank => ?_⟩
  rw [upcoming_nil, List.nil_append, ← List.append_assoc]
  exact skipRest_end _ (blanks_append.mpr ⟨leading, blank⟩)

lemma passedPieces_cons {after : List Char} (leading : Blanks before) (key : frame.Key k)
    (value : WellFormed s) (trailing : Blanks after) (passed : Passed s)
    (later : PassedPieces frame pieces) :
    PassedPieces frame ((before ++ (k ++ (s ++ after))) :: pieces) := by
  intro first
  obtain ⟨inside, few, enter⟩ := passed
  obtain ⟨others, few', leave⟩ := later false
  refine ⟨others + inside + 1, ?_, fun fuel frames blanks rest skipped hs blank => ?_⟩
  · rw [if_neg (by simp)] at few'
    rw [upcoming_cons]
    simp only [List.length_append]
    cases first with
    | true =>
      rw [if_pos rfl]
      omega
    | false =>
      have comma : (lead false).length = 1 := rfl
      rw [if_neg (by simp), comma]
      omega
  · have closed : Closes (after ++ (upcoming false pieces ++ (blanks ++ frame.closing :: rest))) :=
      closes_append trailing (closes_upcoming pieces blank (by cases frame <;> decide))
    obtain ⟨inner, hinner, entered⟩ := @skipRest_piece _
      (after ++ (upcoming false pieces ++ (blanks ++ frame.closing :: rest))) _ _ _ frame frames
      (fuel + others + inside) first hs leading key value
    simp only [upcoming_cons, List.append_assoc]
    rw [← Nat.add_assoc, ← Nat.add_assoc, entered, enter hinner closed]
    exact leave trailing blank

lemma passed_nested (elements : PassedPieces frame pieces) (blank : Blanks blanks) :
    Passed (frame.opening :: (commaSeparated pieces ++ (blanks ++ [frame.closing]))) := by
  obtain ⟨steps, few, passed⟩ := elements true
  refine ⟨steps + 1, ?_, fun fuel frames before rest leading _ => ?_⟩
  · rw [if_pos rfl] at few
    simp only [List.length_cons, List.length_append, List.length_nil]
    have same : (upcoming true pieces).length = (commaSeparated pieces).length := rfl
    omega
  · have inside := @passed fuel frames _ rest _ blanks_nil blank
    simp only [List.cons_append, List.append_assoc, List.nil_append] at inside ⊢
    rw [← Nat.add_assoc, skipIn_opening leading]
    exact inside

mutual

theorem passed_wellFormed {s : List Char} : WellFormed s → Passed s
  | .null => passed_scalar rfl rfl (by rintro (_ | _) <;> decide) fun _ _ => rfl
  | .bool true => passed_scalar rfl rfl (by rintro (_ | _) <;> decide) fun _ _ => rfl
  | .bool false => passed_scalar rfl rfl (by rintro (_ | _) <;> decide) fun _ _ => rfl
  | .number h => passed_number h
  | .text h => passed_scalar rfl rfl (by rintro (_ | _) <;> decide) fun rest _ => skipText_body h rest
  | .nested elements blank => passed_nested (passed_wellFormedPieces elements) blank

theorem passed_wellFormedPieces {frame : Frame} {pieces : List (List Char)} :
    WellFormedPieces frame pieces → PassedPieces frame pieces
  | .nil => passedPieces_nil
  | .cons leading key value trailing later =>
    passedPieces_cons leading key value trailing (passed_wellFormed value)
      (passed_wellFormedPieces later)

end

/-- A value is passed over as a whole, whatever it is and however deep it is nested. -/
theorem skipValue_wellFormed (value : WellFormed s) (leading : Blanks before) (closed : Closes rest) :
    skipValue (before ++ (s ++ rest)) = .ok rest := by
  obtain ⟨steps, few, passed⟩ := passed_wellFormed value
  have enough : ∃ left, 2 * (before ++ (s ++ rest)).length + 2 = left + 1 + steps := by
    refine ⟨2 * (before ++ (s ++ rest)).length + 1 - steps, ?_⟩
    simp only [List.length_append]
    omega
  obtain ⟨left, enough⟩ := enough
  rw [skipValue, enough, passed leading closed]
  rfl

/-! ### Parts -/

/-- Texts that stand for one thing. -/
abbrev Texts := List Char → Prop

/-- One of some texts, with blanks around it. -/
inductive Padded (texts : Texts) : Texts
  | intro {before s after : List Char} (leading : Blanks before) (text : texts s)
      (trailing : Blanks after) : Padded texts (before ++ (s ++ after))

/-- A member of an object, with blanks around its parts. -/
inductive MemberText (key : String) (texts : Texts) : Texts
  | intro {before k left right s after : List Char} (leading : Blanks before)
      (name : TextSpelling key.toList k) (beforeColon : Blanks left) (afterColon : Blanks right)
      (value : texts s) (trailing : Blanks after) :
      MemberText key texts
        (before ++ ('"' :: (k ++ (left ++ ':' :: (right ++ (s ++ after))))))

lemma MemberText.mono {key : String} {texts texts' : Texts} (h : MemberText key texts s)
    (all : ∀ t, texts t → texts' t) : MemberText key texts' s := by
  cases h with
  | intro leading name beforeColon afterColon value trailing =>
    exact .intro leading name beforeColon afterColon (all _ value) trailing

end Conveyor.Json
