import GameRealm.Json.Parser
import GameRealm.Json.Printer
import GameRealm.Proofs.Utf8

/-!
# Literals are read as they are written

What a reader makes of a printed number or string, with anything behind it.

1. `digits_spell` ties the digits of a natural number to their value;
2. `number?_printNumber`: a number literal is read back whole, provided that what follows
   it does not go on with it;
3. `literal?_quote`: a string literal is read back up to its closing quote, whatever
   follows. Character by character, an escape is read as one piece (`pieces?_escape`) and
   the pieces spell the bytes of the character again (`spell?_scraps`).
-/

namespace GameRealm.Number

/-! ## Digits -/

theorem lt_ten_of_mem_digitsWithin (fuel n d : Nat) (h : d ∈ digitsWithin fuel n) :
    d < 10 := by
  induction fuel generalizing n with
  | zero =>
    rw [digitsWithin, List.mem_singleton] at h
    omega
  | succ fuel ih =>
    rw [digitsWithin] at h
    split at h
    · rw [List.mem_singleton] at h
      omega
    · rcases List.mem_append.mp h with h | h
      · exact ih _ h
      · rw [List.mem_singleton] at h
        omega

theorem digitsWithin_leading {fuel n : Nat} (h : n ≤ fuel) :
    ∃ d ds, digitsWithin fuel n = d :: ds ∧ (d = 0 → n = 0) := by
  induction fuel generalizing n with
  | zero => exact ⟨n % 10, [], rfl, by omega⟩
  | succ fuel ih =>
    rw [digitsWithin]
    split
    · exact ⟨n, [], rfl, id⟩
    · obtain ⟨d, ds, eq, leading⟩ := ih (n := n / 10) (by omega)
      exact ⟨d, ds ++ [n % 10], by rw [eq, List.cons_append], fun zero => by
        have := leading zero
        omega⟩

theorem ofDigits_digitsWithin {fuel n : Nat} (h : n ≤ fuel) :
    ofDigits (digitsWithin fuel n) = n := by
  induction fuel generalizing n with
  | zero =>
    obtain rfl : n = 0 := Nat.le_zero.mp h
    rfl
  | succ fuel ih =>
    rw [digitsWithin]
    split
    · simp [ofDigits]
    · have front := ih (n := n / 10) (by omega)
      rw [ofDigits, List.foldl_append]
      rw [ofDigits] at front
      rw [front]
      simp only [List.foldl_cons, List.foldl_nil]
      omega

/-- The digits of a natural number: what they spell, that there are some, that each is
one, and that no zero leads them. -/
theorem digits_spell (n : Nat) :
    ofDigits (digits n) = n ∧ (∀ d ∈ digits n, d < 10) ∧
      ∃ d ds, digits n = d :: ds ∧ (d = 0 → ds = []) := by
  refine ⟨ofDigits_digitsWithin (Nat.le_refl n), fun d => lt_ten_of_mem_digitsWithin n n d, ?_⟩
  obtain ⟨d, ds, eq, leading⟩ := digitsWithin_leading (Nat.le_refl n)
  refine ⟨d, ds, eq, fun zero => ?_⟩
  obtain rfl : n = 0 := leading zero
  cases eq
  rfl

/-- A number that the grammar has a literal for. -/
structure Literal (n : Number) : Prop where
  whole : ∀ d ∈ n.whole, d < 10
  leading : ∃ d ds, n.whole = d :: ds ∧ (d = 0 → ds = [])
  fraction : ∀ d ∈ n.fraction, d < 10
  exponent : ∀ negative ds, n.exponent = some (negative, ds) → ds ≠ [] ∧ ∀ d ∈ ds, d < 10

theorem literal_ofNat (n : Nat) : (ofNat n).Literal where
  whole := (digits_spell n).2.1
  leading := (digits_spell n).2.2
  fraction := fun _ h => absurd h List.not_mem_nil
  exponent := fun _ _ h => by cases h

theorem natural?_ofNat (n : Nat) : (ofNat n).natural? = some n := by
  rw [natural?, if_pos ⟨rfl, rfl, rfl⟩]
  exact congrArg some (digits_spell n).1

end GameRealm.Number

namespace GameRealm.Json

open Utf8

/-! ## Numbers -/

/-- Bytes that do not go on with a run of digits. -/
def EndsDigits : Bytes → Prop
  | [] => True
  | b :: _ => digit? b = none

/-- Bytes that do not go on with a number. -/
def EndsNumber : Bytes → Prop
  | [] => True
  | b :: _ => digit? b = none ∧ b ≠ 46 ∧ b ≠ 101 ∧ b ≠ 69

theorem EndsNumber.endsDigits {rest : Bytes} (h : EndsNumber rest) : EndsDigits rest := by
  cases rest with
  | nil => trivial
  | cons b rest => exact h.1

theorem octets_digit {d : Nat} (h : d < 10) :
    String.utf8EncodeChar (Char.ofNat (48 + d)) = [UInt8.ofNat (48 + d)] := by
  decide +revert

theorem digit?_octet {d : Nat} (h : d < 10) : digit? (UInt8.ofNat (48 + d)) = some d := by
  decide +revert

theorem digit_ne_sign {d : Nat} (h : d < 10) :
    UInt8.ofNat (48 + d) ≠ 45 ∧ UInt8.ofNat (48 + d) ≠ 43 := by
  decide +revert

theorem octets_digitChars_cons {d : Nat} (h : d < 10) (ds : List Nat) :
    octets (digitChars (d :: ds)) = UInt8.ofNat (48 + d) :: octets (digitChars ds) := by
  rw [digitChars, List.map_cons, octets_cons, octets_digit h]
  rfl

theorem digitRun_octets {ds : List Nat} {rest : Bytes} (digits : ∀ d ∈ ds, d < 10)
    (ends : EndsDigits rest) : digitRun (octets (digitChars ds) ++ rest) = (ds, rest) := by
  induction ds with
  | nil =>
    cases rest with
    | nil => rfl
    | cons b rest =>
      have stop : digit? b = none := ends
      simp [digitChars, digitRun, stop]
  | cons d ds ih =>
    have hd := digits d List.mem_cons_self
    rw [octets_digitChars_cons hd, List.cons_append, digitRun, digit?_octet hd]
    simp only [ih fun d h => digits d (List.mem_cons_of_mem _ h)]

theorem digits1?_octets {ds : List Nat} {rest : Bytes} (some : ds ≠ [])
    (digits : ∀ d ∈ ds, d < 10) (ends : EndsDigits rest) :
    digits1? (octets (digitChars ds) ++ rest) = .some (ds, rest) := by
  rw [digits1?, digitRun_octets digits ends]
  cases ds with
  | nil => exact absurd rfl some
  | cons d ds => rfl

theorem whole?_octets {n : Number} {rest : Bytes} (literal : n.Literal)
    (ends : EndsDigits rest) :
    whole? (octets (digitChars n.whole) ++ rest) = some (n.whole, rest) := by
  obtain ⟨d, ds, eq, leading⟩ := literal.leading
  rw [whole?, digits1?_octets (by rw [eq]; simp) literal.whole ends, eq]
  cases d with
  | zero =>
    rw [leading rfl]
    rfl
  | succ d => rfl

def fractionChars (ds : List Nat) : List Char := if ds = [] then [] else '.' :: digitChars ds

def exponentChars : Option (Bool × List Nat) → List Char
  | none => []
  | some (negative, ds) => 'e' :: (if negative then ['-'] else []) ++ digitChars ds

theorem printNumber_eq (n : Number) :
    printNumber n = (if n.negative then ['-'] else []) ++ digitChars n.whole ++
      fractionChars n.fraction ++ exponentChars n.exponent := rfl

theorem EndsNumber.exponentChars {rest : Bytes} (ends : EndsNumber rest)
    (e : Option (Bool × List Nat)) :
    EndsDigits (octets (exponentChars e) ++ rest) ∧
      ∀ b tail, octets (exponentChars e) ++ rest = b :: tail → b ≠ 46 := by
  cases e with
  | none =>
    refine ⟨ends.endsDigits, fun b tail eq => ?_⟩
    obtain rfl : rest = b :: tail := eq
    exact ends.2.1
  | some e =>
    refine ⟨rfl, fun b tail eq => ?_⟩
    obtain rfl : 101 = b := (List.cons.inj eq).1
    decide

theorem EndsDigits.fractionChars {rest : Bytes} (ends : EndsDigits rest) (ds : List Nat) :
    EndsDigits (octets (fractionChars ds) ++ rest) := by
  rw [Json.fractionChars]
  split
  · exact ends
  · exact rfl

theorem fraction?_octets {n : Number} {rest : Bytes} (literal : n.Literal)
    (ends : EndsDigits rest) (point : ∀ b tail, rest = b :: tail → b ≠ 46) :
    fraction? (octets (fractionChars n.fraction) ++ rest) = some (n.fraction, rest) := by
  by_cases none : n.fraction = []
  · rw [none, fractionChars, if_pos rfl, octets_nil, List.nil_append, fraction?]
    intro tail eq
    exact point 46 tail eq rfl
  · have dot : String.utf8EncodeChar '.' = [46] := rfl
    rw [fractionChars, if_neg none, octets_cons, dot]
    exact digits1?_octets none literal.fraction ends

theorem exponent?_octets {n : Number} {rest : Bytes} (literal : n.Literal)
    (ends : EndsNumber rest) :
    exponent? (octets (exponentChars n.exponent) ++ rest) = some (n.exponent, rest) := by
  cases eq : n.exponent with
  | none =>
    cases rest with
    | nil => rfl
    | cons b rest =>
      obtain ⟨-, -, lower, upper⟩ := ends
      simp [exponentChars, exponent?, lower, upper]
  | some exponent =>
    obtain ⟨negative, ds⟩ := exponent
    obtain ⟨some, digits⟩ := literal.exponent negative ds eq
    have mark : String.utf8EncodeChar 'e' = [101] := rfl
    have read := digits1?_octets some digits ends.endsDigits
    cases negative with
    | true =>
      have minus : String.utf8EncodeChar '-' = [45] := rfl
      simp [exponentChars, octets_cons, mark, minus, exponent?, read]
    | false =>
      obtain ⟨d, ds, rfl⟩ := List.exists_cons_of_ne_nil some
      have hd := digits d List.mem_cons_self
      obtain ⟨minus, plus⟩ := digit_ne_sign hd
      rw [octets_digitChars_cons hd, List.cons_append] at read
      simp only [exponentChars, octets_cons, mark, octets_digitChars_cons hd, List.cons_append,
        List.nil_append, Bool.false_eq_true, if_false, exponent?, true_or, if_true]
      generalize UInt8.ofNat (48 + d) = b at minus plus read ⊢
      split
      next tail same => exact absurd (List.cons.inj same).1 minus
      next tail same => exact absurd (List.cons.inj same).1 plus
      next => rw [read]; rfl

/-- A number is read back from its literal. -/
theorem number?_printNumber {n : Number} {rest : Bytes} (literal : n.Literal)
    (ends : EndsNumber rest) :
    number? (octets (printNumber n) ++ rest) = some (n, rest) := by
  have exponent := exponent?_octets literal ends
  have fraction := fraction?_octets literal (ends.exponentChars n.exponent).1
    (ends.exponentChars n.exponent).2
  have whole := whole?_octets literal
    ((ends.exponentChars n.exponent).1.fractionChars n.fraction)
  obtain ⟨negative, w, f, e⟩ := n
  rw [printNumber_eq]
  cases negative with
  | true =>
    have minus : String.utf8EncodeChar '-' = [45] := rfl
    simp only at exponent fraction whole
    simp [number?, octets_cons, minus, whole, fraction, exponent]
  | false =>
    obtain ⟨d, ds, rfl, -⟩ : ∃ d ds, w = d :: ds ∧ _ := literal.leading
    have hd := literal.whole d List.mem_cons_self
    have plus := (digit_ne_sign hd).1
    simp only [octets_digitChars_cons hd, List.cons_append] at exponent fraction whole
    simp only [number?, Bool.false_eq_true, if_false, List.nil_append, octets_append,
      octets_digitChars_cons hd, List.cons_append, List.append_assoc]
    generalize UInt8.ofNat (48 + d) = b at plus whole ⊢
    split
    next tail same => exact absurd (List.cons.inj same).1 plus
    next => simp [whole, fraction, exponent]

/-! ## Strings -/

/-- What the reader makes of one printed character. -/
def scraps (c : Char) : List Piece :=
  if c.toNat < 32 ∧ shortEscape? c = none then [.unit c.toNat]
  else (String.utf8EncodeChar c).map .byte

theorem pieces?_plain {b : UInt8} (printable : 32 ≤ b) (quote : b ≠ 34) (escape : b ≠ 92)
    (rest : Bytes) :
    pieces? (b :: rest) = (pieces? rest).map fun (ps, rest) => (.byte b :: ps, rest) := by
  have below : ¬(b < 32 ∨ b = 92) := by
    rintro (h | h)
    · exact absurd printable (UInt8.not_le.mpr h)
    · exact escape h
  rw [pieces?]
  · rw [if_neg below]
    cases pieces? rest <;> rfl
  · simpa using quote
  · simp [escape]
  · simp [escape]

theorem pieces?_plains {bs : Bytes} (plain : ∀ b ∈ bs, 32 ≤ b ∧ b ≠ 34 ∧ b ≠ 92) (rest : Bytes) :
    pieces? (bs ++ rest) = (pieces? rest).map fun (ps, rest) => (bs.map .byte ++ ps, rest) := by
  induction bs with
  | nil => simp
  | cons b bs ih =>
    obtain ⟨printable, quote, escape⟩ := plain b List.mem_cons_self
    rw [List.cons_append, pieces?_plain printable quote escape,
      ih fun b h => plain b (List.mem_cons_of_mem _ h), Option.map_map]
    rfl

theorem unit?_pair {n : Nat} (h : n < 32) :
    octets (Bytes.pair Bytes.lowerDigit (UInt8.ofNat n)) =
        [UInt8.ofNat (Bytes.lowerDigit (n / 16)).toNat,
          UInt8.ofNat (Bytes.lowerDigit (n % 16)).toNat] ∧
      unit? 48 48 (UInt8.ofNat (Bytes.lowerDigit (n / 16)).toNat)
        (UInt8.ofNat (Bytes.lowerDigit (n % 16)).toNat) = some n := by
  decide +revert

/-- A one-letter escape. -/
theorem pieces?_letter {b byte : UInt8} (letter : letterEscape? b = some byte) (rest : Bytes) :
    pieces? (92 :: b :: rest) = (pieces? rest).map fun (ps, rest) => (.byte byte :: ps, rest) := by
  have unit : b ≠ 117 := by
    rintro rfl
    cases letter
  rw [pieces?]
  · rw [letter]
    cases pieces? rest <;> rfl
  · simp [unit]

theorem shortEscape?_spec {c letter : Char} (h : shortEscape? c = some letter) :
    c.toNat < 32 ∧ String.utf8EncodeChar letter = [UInt8.ofNat letter.toNat] ∧
      letterEscape? (UInt8.ofNat letter.toNat) = some (UInt8.ofNat c.toNat) := by
  simp only [shortEscape?] at h
  split at h
  next is => subst is; cases h; decide
  split at h
  next is => subst is; cases h; decide
  split at h
  next is => subst is; cases h; decide
  split at h
  next is => subst is; cases h; decide
  split at h
  next is => subst is; cases h; decide
  cases h

theorem plain_of_mem_utf8EncodeChar {c : Char} (quote : c ≠ '"') (slash : c ≠ '\\')
    (printable : 32 ≤ c.toNat) {b : UInt8} (mem : b ∈ String.utf8EncodeChar c) :
    32 ≤ b ∧ b ≠ 34 ∧ b ≠ 92 := by
  have spelled : ∀ n : Nat, n < 256 → b.toNat ≠ n → b ≠ UInt8.ofNat n := by
    rintro n small ne rfl
    exact ne (toNat_octet small)
  have other : ∀ d : Char, c ≠ d → c.toNat ≠ d.toNat := fun d ne same =>
    ne (by rw [← Char.ofNat_toNat c, same, Char.ofNat_toNat])
  have byte : 32 ≤ b.toNat ∧ b.toNat ≠ 34 ∧ b.toNat ≠ 92 := by
    by_cases ascii : c.toNat < 128
    · rw [utf8EncodeChar_ascii ascii, List.mem_singleton] at mem
      rw [mem, toNat_octet (by omega)]
      exact ⟨printable, other '"' quote, other '\\' slash⟩
    · have := le_of_mem_utf8EncodeChar (Nat.le_of_not_lt ascii) mem
      omega
  exact ⟨UInt8.le_iff_toNat_le.mpr byte.1, spelled 34 (by decide) byte.2.1,
    spelled 92 (by decide) byte.2.2⟩

/-- A printed character is read as its scraps. -/
theorem pieces?_escape (c : Char) (rest : Bytes) :
    pieces? (octets (escape c) ++ rest) =
      (pieces? rest).map fun (ps, rest) => (scraps c ++ ps, rest) := by
  have backslash : String.utf8EncodeChar '\\' = [92] := rfl
  by_cases marked : c = '"' ∨ c = '\\'
  · rcases marked with rfl | rfl
    · exact pieces?_letter (b := 34) rfl rest
    · exact pieces?_letter (b := 92) rfl rest
  · rw [escape, if_neg marked]
    cases short : shortEscape? c with
    | some letter =>
      obtain ⟨control, one, spells⟩ := shortEscape?_spec short
      have all : scraps c = [.byte (UInt8.ofNat c.toNat)] := by
        rw [scraps, if_neg (by simp [short]), utf8EncodeChar_ascii (by omega)]
        rfl
      simp only [octets_cons, backslash, one, octets_nil, List.append_nil, List.cons_append,
        List.nil_append]
      rw [pieces?_letter spells, all]
      rfl
    | none =>
      simp only
      split
      next control =>
        have u : String.utf8EncodeChar 'u' = [117] := rfl
        have zero : String.utf8EncodeChar '0' = [48] := rfl
        obtain ⟨pair, unit⟩ := unit?_pair control
        have all : scraps c = [.unit c.toNat] := if_pos ⟨control, short⟩
        simp only [octets_cons, backslash, u, zero, pair, List.cons_append, List.nil_append]
        rw [pieces?, unit, all]
        cases pieces? rest <;> rfl
      next printable =>
        have all : scraps c = (String.utf8EncodeChar c).map .byte :=
          if_neg fun h => printable h.1
        rw [all, octets_cons, octets_nil, List.append_nil]
        exact pieces?_plains (fun b mem => plain_of_mem_utf8EncodeChar
          (fun h => marked (.inl h)) (fun h => marked (.inr h)) (by omega) mem) rest

theorem spell?_scraps (c : Char) (ps : List Piece) :
    spell? (scraps c ++ ps) = (spell? ps).map (String.utf8EncodeChar c ++ ·) := by
  rw [scraps]
  split
  next control =>
    have back : Char.ofNat c.toNat = c := Char.ofNat_toNat c
    have high : ¬(0xD800 ≤ c.toNat ∧ c.toNat < 0xDC00) := by omega
    have low : ¬(0xDC00 ≤ c.toNat ∧ c.toNat < 0xE000) := by omega
    have half : ¬(0xD800 ≤ c.toNat ∧ c.toNat < 0xE000) := by omega
    rw [List.singleton_append]
    rcases ps with _ | ⟨⟨byte⟩ | ⟨unit⟩, ps⟩
    · simp only [spell?, if_neg half, back]
    · simp only [spell?, if_neg half, back]
    · rw [spell?, if_neg high, if_neg low, back]
  next =>
    induction String.utf8EncodeChar c with
    | nil => simp
    | cons b bs ih =>
      rw [List.map_cons, List.cons_append, spell?, ih, Option.map_map]
      rfl

theorem pieces?_chars (cs : List Char) (rest : Bytes) :
    pieces? (octets (cs.flatMap escape) ++ 34 :: rest) = some (cs.flatMap scraps, rest) := by
  induction cs with
  | nil => rfl
  | cons c cs ih =>
    rw [List.flatMap_cons, octets_append, List.append_assoc, pieces?_escape, ih]
    rfl

theorem spell?_chars (cs : List Char) : spell? (cs.flatMap scraps) = some (octets cs) := by
  induction cs with
  | nil => rfl
  | cons c cs ih =>
    rw [List.flatMap_cons, spell?_scraps, ih, octets_cons]
    rfl

/-- A text is read back from its literal. -/
theorem literal?_quote (text : String) (rest : Bytes) :
    octets (quote text) ++ rest = 34 :: (octets (text.toList.flatMap escape) ++ 34 :: rest) ∧
      literal? (octets (text.toList.flatMap escape) ++ 34 :: rest) = some (some text, rest) := by
  have mark : String.utf8EncodeChar '"' = [34] := rfl
  refine ⟨by simp [quote, octets_cons, mark], ?_⟩
  rw [literal?, pieces?_chars]
  simp only [Option.map_some, textOf, spell?_chars, Option.bind_some, decode_octets,
    String.ofList_toList]

end GameRealm.Json
