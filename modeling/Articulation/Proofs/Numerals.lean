import Articulation.Proofs.Nearest
import Articulation.Yaml.Value
import Articulation.Yaml.Write
/-!
Numbers as they are written. Every text that a number is written as is a numeral or one of three
names, and it is read as that number again.
-/
set_option autoImplicit false

namespace Articulation

structure DigitRow where
  chars : List Char
  some : chars ≠ []
  digits : ∀ c ∈ chars, c.isDigit = true

/-- Digits on both sides of a point, and perhaps an exponent, whose sign is always written. -/
structure Numeral where
  whole : DigitRow
  fraction : DigitRow
  /-- Whether it is negative, and its digits. -/
  exponent : Option (Bool × DigitRow)

namespace Numeral

def exponentText : Option (Bool × DigitRow) → List Char
  | none => []
  | some (isNegative, ds) => 'e' :: (if isNegative then '-' else '+') :: ds.chars

def exponentValue : Option (Bool × DigitRow) → Int
  | none => 0
  | some (isNegative, ds) =>
    let n : Int := Nat.ofDigitChars 10 ds.chars 0
    if isNegative then -n else n

def text (n : Numeral) : List Char :=
  n.whole.chars ++ '.' :: (n.fraction.chars ++ exponentText n.exponent)

def decimal (n : Numeral) : Decimal :=
  ⟨Nat.ofDigitChars 10 (n.whole.chars ++ n.fraction.chars) 0,
    exponentValue n.exponent - n.fraction.chars.length⟩

def isChar (c : Char) : Bool := c.isDigit || ['.', 'e', '+', '-'].contains c

theorem isChar_of_mem {n : Numeral} {c : Char} (h : c ∈ n.text) : isChar c = true := by
  have digit {ds : DigitRow} (h : c ∈ ds.chars) : isChar c = true := by
    simp [isChar, ds.digits c h]
  obtain ⟨whole, fraction, exponent⟩ := n
  simp only [text, List.mem_append, List.mem_cons] at h
  rcases h with h | rfl | h | h
  · exact digit h
  · rfl
  · exact digit h
  · cases exponent with
    | none => contradiction
    | some e =>
      obtain ⟨isNegative, ds⟩ := e
      simp only [exponentText, List.mem_cons] at h
      rcases h with rfl | rfl | h
      · rfl
      · cases isNegative <;> rfl
      · exact digit h

theorem toNat_of_isDigit {c : Char} (h : c.isDigit = true) : 48 ≤ c.toNat ∧ c.toNat ≤ 57 := by
  simp only [Char.isDigit, Bool.and_eq_true, decide_eq_true_eq] at h
  exact ⟨by simpa using UInt32.le_iff_toNat_le.1 h.1, by simpa using UInt32.le_iff_toNat_le.1 h.2⟩

theorem isChar_cases {p : Char → Prop} (digit : ∀ c, 48 ≤ c.toNat → c.toNat ≤ 57 → p c)
    (point : p '.') (letter : p 'e') (plus : p '+') (minus : p '-') {c : Char}
    (h : isChar c = true) : p c := by
  rw [isChar, Bool.or_eq_true, List.contains_iff_mem] at h
  rcases h with h | h
  · exact digit c (toNat_of_isDigit h).1 (toNat_of_isDigit h).2
  · simp only [List.mem_cons, List.not_mem_nil, or_false] at h
    rcases h with rfl | rfl | rfl | rfl
    · exact point
    · exact letter
    · exact plus
    · exact minus

theorem digit?_of_isDigit {c : Char} (h : c.isDigit = true) :
    Text.digit? c = some (c.toNat - 48) := by
  have bounds := toNat_of_isDigit h
  have found : Text.decimalZeros.find? (fun z => z ≤ c.toNat && c.toNat < z + 10) = some 48 := by
    refine List.find?_cons_of_pos ?_
    simp only [Bool.and_eq_true, decide_eq_true_eq]
    omega
  rw [Text.digit?, found]
  rfl

theorem natOfDigits_eq (cs : List Char) :
    Text.natOfDigits (cs.map fun c => c.toNat - 48) = Nat.ofDigitChars 10 cs 0 := by
  rw [Text.natOfDigits, List.foldl_map, Nat.ofDigitChars_eq_foldl]
  rfl

theorem takeDigits_append {ds : List Char} (rest : List Char) (digits : ∀ c ∈ ds, c.isDigit = true)
    (ended : ∀ c, rest.head? = some c → Text.digit? c = none) :
    Decimal.takeDigits Text.digit? (ds ++ rest) = (ds.map fun c => c.toNat - 48, rest) := by
  induction ds with
  | nil =>
    cases rest with
    | nil => rfl
    | cons c rest => simp [Decimal.takeDigits, ended c rfl]
  | cons d ds ih =>
    have here := digit?_of_isDigit (digits d List.mem_cons_self)
    have later := ih fun c hc => digits c (List.mem_cons_of_mem d hc)
    simp [Decimal.takeDigits, here, later]

theorem readExponent_exponentText (exponent : Option (Bool × DigitRow)) :
    Decimal.readExponent Text.digit? (exponentText exponent) = some (exponentValue exponent) := by
  cases exponent with
  | none => rfl
  | some e =>
    obtain ⟨isNegative, ds, some, digits⟩ := e
    have taken := takeDigits_append [] digits (by simp)
    have value := natOfDigits_eq ds
    rw [List.append_nil] at taken
    have signed : Decimal.signed ((if isNegative then '-' else '+') :: ds) = (isNegative, ds) := by
      cases isNegative <;> rfl
    cases ds with
    | nil => contradiction
    | cons d ds =>
      simp only [List.map_cons] at taken value
      simp [Decimal.readExponent, exponentText, exponentValue, signed, taken, value]

theorem readUnsigned_text (n : Numeral) :
    Decimal.readUnsigned Text.digit? n.text = some n.decimal := by
  obtain ⟨⟨whole, wholeSome, wholeDigits⟩, ⟨fraction, _, fractionDigits⟩, exponent⟩ := n
  have wholeTaken := takeDigits_append ('.' :: (fraction ++ exponentText exponent))
    wholeDigits fun c hc => by
      obtain rfl : '.' = c := by simpa using hc
      decide
  have fractionTaken := takeDigits_append (exponentText exponent) fractionDigits
    fun c hc => by
      cases exponent with
      | none => contradiction
      | some e =>
        obtain rfl : 'e' = c := by simpa [exponentText] using hc
        decide
  have value := natOfDigits_eq (whole ++ fraction)
  rw [List.map_append] at value
  simp only [Decimal.readUnsigned, text, wholeTaken, fractionTaken, readExponent_exponentText]
  simp [wholeSome, decimal, value]

theorem dropSeparators_eq {digit : Char → Option Nat} (cs : List Char) (plain : '_' ∉ cs) :
    ∀ afterDigit, Decimal.dropSeparators digit afterDigit cs = some cs := by
  induction cs with
  | nil => exact fun _ => rfl
  | cons c cs ih =>
    intro afterDigit
    have other : c ≠ '_' := fun h => plain (h ▸ List.mem_cons_self)
    have later := ih fun h => plain (List.mem_cons_of_mem c h)
    unfold Decimal.dropSeparators
    split
    next h => cases h
    next h => exact absurd (List.cons.inj h).1 other
    next h =>
      obtain ⟨rfl, rfl⟩ := List.cons.inj h
      rw [if_neg other, later, Option.map_some]

theorem trimNumber_eq {cs : List Char} (plain : ∀ c ∈ cs, Decimal.isBlankAroundNumber c = false) :
    Decimal.trimNumber cs = cs := by
  have front {ds : List Char} (h : ∀ c ∈ ds, Decimal.isBlankAroundNumber c = false) :
      ds.dropWhile Decimal.isBlankAroundNumber = ds := by
    cases ds with
    | nil => rfl
    | cons d ds => rw [List.dropWhile_cons_of_neg (by simp [h d List.mem_cons_self])]
  rw [Decimal.trimNumber, front plain, front fun c hc => plain c (List.mem_reverse.1 hc),
    List.reverse_reverse]

theorem ne_of_isChar {c : Char} (h : isChar c = true) :
    c ≠ '_' ∧ c ≠ ':' ∧ c ≠ '\n' ∧ Decimal.isBlankAroundNumber c = false ∧ c.toLower = c := by
  refine isChar_cases (p := fun c => c ≠ '_' ∧ c ≠ ':' ∧ c ≠ '\n' ∧
    Decimal.isBlankAroundNumber c = false ∧ c.toLower = c) (fun c low high => ?_)
    (by decide) (by decide) (by decide) (by decide) h
  have apart (d : Char) (out : d.toNat < 48 ∨ 57 < d.toNat) : c ≠ d := by
    rintro rfl
    omega
  refine ⟨apart _ (by decide), apart _ (by decide), apart _ (by decide), ?_, ?_⟩
  · simp only [Decimal.isBlankAroundNumber, Text.isBlank, Bool.and_eq_false_imp]
    intro blank
    simp only [Bool.or_eq_true, Bool.and_eq_true, decide_eq_true_eq, beq_iff_eq] at blank
    omega
  · have small : ¬ c.val ≥ 65 := by
      rw [ge_iff_le, UInt32.le_iff_toNat_le]
      have : c.val.toNat = c.toNat := rfl
      have : (65 : UInt32).toNat = 65 := rfl
      omega
    simp [Char.toLower, small]

def signedText (isNegative : Bool) (n : Numeral) : List Char :=
  if isNegative then '-' :: n.text else n.text

theorem isChar_of_mem_signedText {isNegative : Bool} {n : Numeral} {c : Char}
    (h : c ∈ n.signedText isNegative) : isChar c = true := by
  cases isNegative with
  | false => exact isChar_of_mem h
  | true =>
    rcases List.mem_cons.1 h with rfl | h
    · rfl
    · exact isChar_of_mem h

theorem text_eq_cons (n : Numeral) : ∃ d cs, n.text = d :: cs ∧ d.isDigit = true := by
  obtain ⟨⟨whole, some, digits⟩, fraction, exponent⟩ := n
  cases whole with
  | nil => contradiction
  | cons d ds => exact ⟨d, _, rfl, digits d List.mem_cons_self⟩

theorem text_ne (n : Numeral) (word : String)
    (other : word.toList.head?.any Char.isDigit = false) : String.ofList n.text ≠ word := by
  intro same
  obtain ⟨d, cs, split, digit⟩ := n.text_eq_cons
  rw [← same, String.toList_ofList, split, List.head?_cons, Option.any_some, digit] at other
  contradiction

theorem signed_signedText (isNegative : Bool) (n : Numeral) :
    Decimal.signed (n.signedText isNegative) = (isNegative, n.text) := by
  cases isNegative with
  | true => rfl
  | false =>
    obtain ⟨d, cs, split, digit⟩ := n.text_eq_cons
    have minus : d ≠ '-' := by
      rintro rfl
      contradiction
    have plus : d ≠ '+' := by
      rintro rfl
      contradiction
    simp [signedText, split, Decimal.signed, minus, plus]

theorem lower_signedText (isNegative : Bool) (n : Numeral) :
    Text.lower (n.signedText isNegative) = n.signedText isNegative :=
  (List.map_congr_left fun _ h => (ne_of_isChar (isChar_of_mem_signedText h)).2.2.2.2).trans
    (List.map_id _)

theorem readNamed_text (n : Numeral) : Decimal.readNamed n.text = none := by
  have lower : Text.lower n.text = n.text := n.lower_signedText false
  have infinity := n.text_ne "inf" (by decide)
  have longInfinity := n.text_ne "infinity" (by decide)
  have notANumber := n.text_ne "nan" (by decide)
  simp [Decimal.readNamed, lower, infinity, longInfinity, notANumber]

theorem readFloat?_text (n : Numeral) : readFloat? n.text = some n.decimal.toFloat := by
  have plain : '_' ∉ n.text := fun h => (ne_of_isChar (isChar_of_mem h)).1 rfl
  have trimmed := trimNumber_eq fun c (h : c ∈ n.text) => (ne_of_isChar (isChar_of_mem h)).2.2.2.1
  have unsigned : Decimal.signed n.text = (false, n.text) := n.signed_signedText false
  have read := n.readUnsigned_text
  rw [readFloat?, trimmed, dropSeparators_eq _ plain, Option.bind_some, Decimal.readSigned,
    unsigned]
  simp [readNamed_text, read]

theorem isDigit_of_mem_zeros {n : ℕ} {c : Char} (h : c ∈ Decimal.zeros n) : c.isDigit = true := by
  obtain ⟨-, rfl⟩ := List.mem_replicate.1 h
  rfl

theorem ofDigitChars_append_zeros (ds : List Char) (n : ℕ) :
    Nat.ofDigitChars 10 (ds ++ Decimal.zeros n) 0 = 10 ^ n * Nat.ofDigitChars 10 ds 0 := by
  rw [Nat.ofDigitChars_append, Decimal.zeros, Nat.ofDigitChars_replicate_zero]

theorem ofDigitChars_zeros_append (ds : List Char) (n : ℕ) :
    Nat.ofDigitChars 10 (Decimal.zeros n ++ ds) 0 = Nat.ofDigitChars 10 ds 0 := by
  rw [Nat.ofDigitChars_append, Decimal.zeros, Nat.ofDigitChars_replicate_zero, Nat.mul_zero]

/-- The number `0.d₁d₂… * 10 ^ point`. -/
def ofPoint (ds : List Char) (point : ℤ) : Decimal :=
  ⟨Nat.ofDigitChars 10 ds 0, point - ds.length⟩

theorem decimal_eq_ofPoint (n : Numeral) :
    n.decimal = ofPoint (n.whole.chars ++ n.fraction.chars)
      (n.whole.chars.length + exponentValue n.exponent) := by
  have place : exponentValue n.exponent - n.fraction.chars.length =
      n.whole.chars.length + exponentValue n.exponent -
        (n.whole.chars ++ n.fraction.chars).length := by
    rw [List.length_append]
    omega
  rw [decimal, ofPoint, place]

theorem ofPoint_zeros_append (n : ℕ) (ds : List Char) (point : ℤ) :
    ofPoint (Decimal.zeros n ++ ds) point = ofPoint ds (point - n) := by
  have place : point - (Decimal.zeros n ++ ds).length = point - n - ds.length := by
    rw [List.length_append, Decimal.zeros, List.length_replicate]
    omega
  rw [ofPoint, ofDigitChars_zeros_append, place, ofPoint]

theorem value_ofPoint_append_zeros (ds : List Char) (n : ℕ) (point : ℤ) :
    (ofPoint (ds ++ Decimal.zeros n) point).value = (ofPoint ds point).value := by
  have ten : (10 : ℚ) ≠ 0 := by norm_num
  have shift : point - ds.length = n + (point - (ds ++ Decimal.zeros n).length) := by
    rw [List.length_append, Decimal.zeros, List.length_replicate]
    omega
  rw [ofPoint, ofPoint, Decimal.value, Decimal.value, ofDigitChars_append_zeros, shift,
    zpow_add₀ ten, zpow_natCast]
  push_cast
  ring

theorem significant_append_zeros (d : Decimal) :
    ∃ n, Nat.toDigits 10 d.digits = (Decimal.significant d).1 ++ Decimal.zeros n := by
  have zero {c : Char} (h : c ∈ (Nat.toDigits 10 d.digits).reverse.takeWhile (· == '0')) :
      c = '0' := by
    simpa using List.mem_takeWhile_imp h
  have split := List.takeWhile_append_dropWhile (p := (· == '0'))
    (l := (Nat.toDigits 10 d.digits).reverse)
  rw [List.eq_replicate_length.2 fun _ => zero] at split
  have whole := congrArg List.reverse split
  rw [List.reverse_append, List.reverse_replicate, List.reverse_reverse] at whole
  exact ⟨_, whole.symm⟩

theorem significant_spec {d : Decimal} (some : d.digits ≠ 0) :
    (Decimal.significant d).1 ≠ [] ∧ (∀ c ∈ (Decimal.significant d).1, c.isDigit = true) ∧
      (ofPoint (Decimal.significant d).1 (Decimal.significant d).2).value = d.value := by
  obtain ⟨n, digits⟩ := significant_append_zeros d
  have value : (ofPoint (Decimal.significant d).1 (Decimal.significant d).2).value = d.value := by
    rw [← value_ofPoint_append_zeros _ n, ← digits]
    simp [ofPoint, Decimal.significant, Decimal.value, Nat.ofDigitChars_ten_toDigits]
  refine ⟨fun none => ?_, fun c h => ?_, value⟩
  · have nothing : (ofPoint (Decimal.significant d).1 (Decimal.significant d).2).value = 0 := by
      simp [none, ofPoint, Decimal.value]
    exact Decimal.value_ne_zero_iff.2 some (value ▸ nothing)
  · refine Nat.isDigit_of_mem_toDigits (b := 10) (n := d.digits) (by decide) (by decide) ?_
    rw [digits]
    exact List.mem_append_left _ h

theorem exists_text (whole fraction : List Char) (wholeSome : whole ≠ [])
    (fractionSome : fraction ≠ []) (digits : ∀ c ∈ whole ++ fraction, c.isDigit = true)
    (exponent : Option (Bool × DigitRow)) :
    ∃ n : Numeral, whole ++ '.' :: (fraction ++ exponentText exponent) = n.text ∧
      n.decimal = ofPoint (whole ++ fraction) (whole.length + exponentValue exponent) :=
  ⟨⟨⟨whole, wholeSome, fun c h => digits c (List.mem_append_left _ h)⟩,
    ⟨fraction, fractionSome, fun c h => digits c (List.mem_append_right _ h)⟩, exponent⟩, rfl,
    decimal_eq_ofPoint _⟩

theorem exists_positional {ds : List Char} (some : ds ≠ []) (digits : ∀ c ∈ ds, c.isDigit = true)
    (point : ℤ) :
    ∃ n : Numeral, Decimal.positional ds point = n.text ∧
      n.decimal.value = (ofPoint ds point).value := by
  have zeroDigits (n : ℕ) : ∀ c ∈ Decimal.zeros n, c.isDigit = true := fun _ => isDigit_of_mem_zeros
  unfold Decimal.positional
  -- The point stands in front of the digits, behind them or among them.
  split
  next below =>
    obtain ⟨n, form, value⟩ := exists_text (Decimal.zeros 1)
      (Decimal.zeros point.natAbs ++ ds) (by decide) (by simp [some])
      (List.forall_mem_append.2
        ⟨zeroDigits 1, List.forall_mem_append.2 ⟨zeroDigits _, digits⟩⟩) none
    refine ⟨n, by simpa [exponentText, Decimal.zeros] using form, ?_⟩
    rw [value, ofPoint_zeros_append, ofPoint_zeros_append]
    congr 2
    simp only [exponentValue, Decimal.zeros, List.length_replicate]
    omega
  next above =>
    split
    next long =>
      obtain ⟨n, form, value⟩ := exists_text
        (ds ++ Decimal.zeros (point.natAbs - ds.length)) (Decimal.zeros 1)
        (by simp [some]) (by decide)
        (List.forall_mem_append.2
          ⟨List.forall_mem_append.2 ⟨digits, zeroDigits _⟩, zeroDigits 1⟩) none
      refine ⟨n, by simpa [exponentText, Decimal.zeros] using form, ?_⟩
      rw [value, value_ofPoint_append_zeros, value_ofPoint_append_zeros]
      congr 2
      simp only [exponentValue, Decimal.zeros, List.length_append, List.length_replicate]
      omega
    next short =>
      have first : ds.take point.natAbs ≠ [] := by
        rw [Ne, List.take_eq_nil_iff, not_or]
        exact ⟨by omega, some⟩
      have second : ds.drop point.natAbs ≠ [] := by
        rw [Ne, List.drop_eq_nil_iff]
        exact short
      obtain ⟨n, form, value⟩ := exists_text _ _ first second
        (by rwa [List.take_append_drop]) none
      refine ⟨n, by simpa [exponentText] using form, ?_⟩
      rw [value, List.take_append_drop]
      congr 2
      simp only [exponentValue, List.length_take]
      omega

theorem exists_exponentText (e : ℤ) : ∃ exponent : Option (Bool × DigitRow),
    'e' :: Decimal.exponentText e = exponentText exponent ∧ exponentValue exponent = e := by
  let row : DigitRow :=
    ⟨Decimal.zeros (2 - (Nat.toDigits 10 e.natAbs).length) ++ Nat.toDigits 10 e.natAbs,
      by simp [Nat.toDigits_ne_nil],
      List.forall_mem_append.2 ⟨fun _ => isDigit_of_mem_zeros,
        fun _ => Nat.isDigit_of_mem_toDigits (by decide) (by decide)⟩⟩
  refine ⟨some (decide (e < 0), row), by simp [Decimal.exponentText, exponentText, row], ?_⟩
  simp only [exponentValue, row, ofDigitChars_zeros_append, Nat.ofDigitChars_ten_toDigits,
    decide_eq_true_eq]
  split <;> omega

theorem exists_scientific {l : Decimal.Layout} (pointed : l.pointBeforeExponent = true)
    {ds : List Char} (some : ds ≠ []) (digits : ∀ c ∈ ds, c.isDigit = true) (point : ℤ) :
    ∃ n : Numeral, Decimal.scientific l ds point = n.text ∧
      n.decimal.value = (ofPoint ds point).value := by
  obtain ⟨exponent, exponentForm, exponentEq⟩ := exists_exponentText (point - 1)
  have place : ((1 : ℕ) : ℤ) + exponentValue exponent = point := by omega
  match ds, some, digits with
  | [d], some, digits =>
    obtain ⟨n, form, value⟩ := exists_text [d] (Decimal.zeros 1) some (by decide)
      (List.forall_mem_append.2 ⟨digits, fun _ => isDigit_of_mem_zeros⟩) exponent
    refine ⟨n, ?_, ?_⟩
    · rw [← form, ← exponentForm]
      simp [Decimal.scientific, pointed, Decimal.zeros]
    · rw [value, value_ofPoint_append_zeros, List.length_singleton, place]
  | d :: e :: es, _, digits =>
    obtain ⟨n, form, value⟩ := exists_text [d] (e :: es) (by simp) (by simp)
      digits exponent
    refine ⟨n, ?_, ?_⟩
    · rw [← form, ← exponentForm]
      simp [Decimal.scientific]
    · rw [value, List.length_singleton, place, List.singleton_append]

/-- The absolute value of a number is written as a numeral that reads back as it. -/
theorem exists_magnitude (l : Decimal.Layout) (pointed : l.pointBeforeExponent = true) {x : Float}
    (number : x.isNaN = false) (finite : x.isInf = false) :
    ∃ n : Numeral, l.magnitude x = n.text ∧ n.decimal.toFloat = x.abs := by
  have back := Decimal.toFloat_shortest number finite
  unfold Decimal.Layout.magnitude
  by_cases none : (Decimal.shortest x).digits = 0
  · let zero : DigitRow := ⟨['0'], by simp, by simp⟩
    refine ⟨⟨zero, zero, .none⟩, ?_, ?_⟩
    · simp only [none, if_true]
      rfl
    · rw [← back, Decimal.toFloat, if_pos (.inl rfl), Decimal.toFloat, if_pos (.inl none)]
  · obtain ⟨some, digits, value⟩ := significant_spec none
    simp only [none, if_false]
    obtain ⟨n, form, same⟩ : ∃ n : Numeral,
        (if l.least ≤ (Decimal.significant (Decimal.shortest x)).2 - 1 ∧
            (Decimal.significant (Decimal.shortest x)).2 - 1 ≤ l.most then
          Decimal.positional (Decimal.significant (Decimal.shortest x)).1
            (Decimal.significant (Decimal.shortest x)).2
        else Decimal.scientific l (Decimal.significant (Decimal.shortest x)).1
          (Decimal.significant (Decimal.shortest x)).2) = n.text ∧
        n.decimal.value = (Decimal.shortest x).value := by
      rw [← value]
      split
      · exact exists_positional some digits _
      · exact exists_scientific pointed some digits _
    exact ⟨n, form, by rw [← back, Decimal.toFloat_congr none same.symm]⟩

end Numeral

namespace Yaml

open Numeral

theorem readReal_signedText (isNegative : Bool) (n : Numeral) :
    readReal (n.signedText isNegative) =
      .ok (if isNegative then -n.decimal.toFloat else n.decimal.toFloat) := by
  have gapless : withoutGaps (n.signedText isNegative) = n.signedText isNegative := by
    refine List.filter_eq_self.2 fun c h => ?_
    have := (ne_of_isChar (isChar_of_mem_signedText h)).1
    simp [this]
  have some : n.signedText isNegative ≠ [] := by
    intro none
    have := n.signed_signedText isNegative
    obtain ⟨d, cs, split, _⟩ := n.text_eq_cons
    rw [none, split] at this
    simp [Decimal.signed] at this
  have unsigned : readUnsignedReal n.text = .ok n.decimal.toFloat := by
    have infinity := n.text_ne ".inf" (by decide)
    have notANumber := n.text_ne ".nan" (by decide)
    have whole : ':' ∉ n.text := fun h => (ne_of_isChar (isChar_of_mem h)).2.1 rfl
    have read := n.readFloat?_text
    rw [readUnsignedReal]
    simp [whole, readRealPart, read]
  rw [readReal, n.lower_signedText, gapless]
  split
  · contradiction
  · simp [n.signed_signedText, unsigned, Except.map]

theorem withoutLastBreak_eq {cs : List Char} (h : '\n' ∉ cs) : Tag.withoutLastBreak cs = cs := by
  have last : cs.getLast? ≠ some '\n' := fun last => h (List.mem_of_getLast? last)
  simp [Tag.withoutLastBreak, last]

theorem isExponent_exponentText (exponent : Option (Bool × DigitRow)) :
    Tag.isExponent (exponentText exponent) = true := by
  cases exponent with
  | none => rfl
  | some e =>
    obtain ⟨isNegative, ds, some, digits⟩ := e
    cases isNegative <;> simpa [exponentText, Tag.isExponent, some] using digits

theorem isReal_signedText (isNegative : Bool) (n : Numeral) :
    Tag.isReal (n.signedText isNegative) = true := by
  have unsigned := n.signed_signedText isNegative
  obtain ⟨⟨whole, some, wholeDigits⟩, ⟨fraction, _, fractionDigits⟩, exponent⟩ := n
  have noPoint : ∀ c ∈ whole, (c != '.') = true := by
    intro c h
    have digit := wholeDigits c h
    rw [bne_iff_ne]
    rintro rfl
    contradiction
  have digitOrGap {c : Char} (h : c.isDigit = true) : Tag.isDigitOrGap c = true := by
    simp [Tag.isDigitOrGap, h]
  have wholeGaps : whole.all Tag.isDigitOrGap = true :=
    List.all_eq_true.2 fun c h => digitOrGap (wholeDigits c h)
  have head : whole.head?.any Char.isDigit = true := by
    cases whole with
    | nil => exact absurd rfl some
    | cons d ds => simpa using wholeDigits d List.mem_cons_self
  have tail : (fraction ++ exponentText exponent).dropWhile Tag.isDigitOrGap =
      exponentText exponent := by
    rw [List.dropWhile_append_of_pos fun c h => digitOrGap (fractionDigits c h)]
    cases exponent with
    | none => rfl
    | some e => exact List.dropWhile_cons_of_neg (by decide)
  have front : (whole ++ '.' :: (fraction ++ exponentText exponent)).takeWhile (· != '.') =
      whole := by
    rw [List.takeWhile_append_of_pos noPoint, List.takeWhile_cons_of_neg (by decide),
      List.append_nil]
  have back : (whole ++ '.' :: (fraction ++ exponentText exponent)).dropWhile (· != '.') =
      '.' :: (fraction ++ exponentText exponent) := by
    rw [List.dropWhile_append_of_pos noPoint, List.dropWhile_cons_of_neg (by decide)]
  simp only [Numeral.text] at unsigned
  simp only [Tag.isReal, unsigned, front, back, tail]
  simp [some, head, wholeGaps, isExponent_exponentText]

theorem not_isTruth_signedText (isNegative : Bool) (n : Numeral) :
    Tag.isTruth (n.signedText isNegative) = false := by
  have letters : ∀ w ∈ Tag.truthWords.flatMap fun w => Tag.spellings w.1,
      w.toList.head?.any (fun c => !isChar c) = true := by
    decide +kernel
  rw [Tag.isTruth, ← Bool.not_eq_true, List.contains_iff_mem]
  intro word
  have strange := letters _ word
  rw [String.toList_ofList, Option.any_eq_true_iff_get] at strange
  obtain ⟨some, strange⟩ := strange
  have known := isChar_of_mem_signedText (List.mem_of_head? (Option.eq_some_of_isSome some))
  rw [known] at strange
  contradiction

theorem ofPlain_signedText (isNegative : Bool) (n : Numeral) :
    Tag.ofPlain (n.signedText isNegative) = .real := by
  have noBreak : '\n' ∉ n.signedText isNegative := fun h =>
    (ne_of_isChar (isChar_of_mem_signedText h)).2.2.1 rfl
  simp [Tag.ofPlain, withoutLastBreak_eq noBreak, not_isTruth_signedText, isReal_signedText]

theorem write_cases (x : Float) :
    (x = 0.0 / 0.0 ∧ number.write x = ".nan") ∨ (x = 1.0 / 0.0 ∧ number.write x = ".inf") ∨
      (x = -(1.0 / 0.0) ∧ number.write x = "-.inf") ∨
      ∃ isNegative n, (number.write x).toList = Numeral.signedText isNegative n ∧
        (if isNegative then -n.decimal.toFloat else n.decimal.toFloat) = x := by
  unfold Decimal.Layout.write
  cases number : x.isNaN with
  | true => exact .inl ⟨Decimal.eq_notANumber number, rfl⟩
  | false =>
    cases finite : x.isInf with
    | true =>
      have size := Decimal.abs_of_isInf finite
      cases sign : Decimal.isNegative x with
      | true => exact .inr (.inr (.inl ⟨size ▸ (Decimal.neg_abs number sign).symm, rfl⟩))
      | false => exact .inr (.inl ⟨size ▸ (Decimal.abs_eq_self number sign).symm, rfl⟩)
    | false =>
      obtain ⟨n, form, size⟩ := exists_magnitude Yaml.number rfl number finite
      refine .inr (.inr (.inr ⟨Decimal.isNegative x, n, ?_, ?_⟩))
      · cases Decimal.isNegative x <;> simp [signedText, form]
      · rw [size]
        cases sign : Decimal.isNegative x with
        | true => exact Decimal.neg_abs number sign
        | false => exact Decimal.abs_eq_self number sign

theorem ofPlain_write (x : Float) : Tag.ofPlain (number.write x).toList = .real := by
  obtain ⟨-, form⟩ | ⟨-, form⟩ | ⟨-, form⟩ | ⟨isNegative, n, form, -⟩ := write_cases x
  · rw [form]
    decide +kernel
  · rw [form]
    decide +kernel
  · rw [form]
    decide +kernel
  · rw [form, ofPlain_signedText]

/-- Every number is read as it is written. -/
theorem readReal_write (x : Float) : readReal (number.write x).toList = .ok x := by
  obtain ⟨value, form⟩ | ⟨value, form⟩ | ⟨value, form⟩ | ⟨isNegative, n, form, value⟩ :=
    write_cases x
  · rw [form, value]
    rfl
  · rw [form, value]
    rfl
  · rw [form, value]
    rfl
  · rw [form, readReal_signedText, value]

end Yaml
end Articulation
