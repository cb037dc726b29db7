import GameRealm.Proofs.JsonLiterals

/-!
# Documents are read as they are printed

The compact form of a document that has one is read back as the same tree: printer and
parser agree on every construct at once, so the agreement is one induction over the tree,
its items and its members. What carries it is that a value ends where a comma, a bracket
or the end of the bytes follows (`Closes`), and that twice the length of what is printed
is fuel enough. `parse?_encode` reads the whole frame.
-/

namespace GameRealm.Json

open Utf8

mutual
/-- Every number of the document has a literal, and every literal is text. -/
def Writable : Json → Prop
  | .null => True
  | .bool _ => True
  | .number n => n.Literal
  | .text value => value.isSome
  | .array items => WritableItems items
  | .object members => WritableMembers members

def WritableItems : List Json → Prop
  | [] => True
  | item :: rest => Writable item ∧ WritableItems rest

def WritableMembers : List (Option String × Json) → Prop
  | [] => True
  | (name, value) :: rest => name.isSome ∧ Writable value ∧ WritableMembers rest
end

/-- Bytes that end a value: none, a comma or a closing bracket. -/
def Closes : Bytes → Prop
  | [] => True
  | b :: _ => b = 44 ∨ b = 93 ∨ b = 125

theorem Closes.endsNumber {rest : Bytes} (h : Closes rest) : EndsNumber rest := by
  cases rest with
  | nil => trivial
  | cons b rest =>
    change digit? b = none ∧ b ≠ 46 ∧ b ≠ 101 ∧ b ≠ 69
    rcases h with rfl | rfl | rfl <;> decide

theorem skipBlanks_cons {b : UInt8} (h : isBlank b = false) (rest : Bytes) :
    skipBlanks (b :: rest) = b :: rest := by
  rw [skipBlanks, List.dropWhile_cons_of_neg (by simp [h])]

/-! ## Marks -/

theorem octets_mark {c : Char} {b : UInt8} (h : String.utf8EncodeChar c = [b]) (cs : List Char) :
    octets (c :: cs) = b :: octets cs := by
  rw [octets_cons, h]
  rfl

theorem octets_array (items : List Json) :
    octets (print (.array items)) = 91 :: (octets (printItems items) ++ [93]) := by
  rw [print, List.cons_append, octets_mark (b := 91) rfl, octets_append]
  rfl

theorem octets_object (members : List (Option String × Json)) :
    octets (print (.object members)) = 123 :: (octets (printMembers members) ++ [125]) := by
  rw [print, List.cons_append, octets_mark (b := 123) rfl, octets_append]
  rfl

theorem octets_items (item next : Json) (rest : List Json) :
    octets (printItems (item :: next :: rest)) =
      octets item.print ++ 44 :: octets (printItems (next :: rest)) := by
  rw [printItems, octets_append, octets_mark (b := 44) rfl]
  simp

theorem octets_member (name : Option String) (value : Json) :
    octets (printMembers [(name, value)]) =
      octets (quote (name.getD "")) ++ 58 :: octets value.print := by
  rw [printMembers, octets_append, octets_mark (b := 58) rfl]

theorem octets_members (name : Option String) (value : Json) (next : Option String × Json)
    (rest : List (Option String × Json)) :
    octets (printMembers ((name, value) :: next :: rest)) =
      octets (quote (name.getD "")) ++ 58 :: (octets value.print ++
        44 :: octets (printMembers (next :: rest))) := by
  have cut : printMembers ((name, value) :: next :: rest) =
      quote (name.getD "") ++ ':' :: value.print ++ ',' :: printMembers (next :: rest) := by
    rw [printMembers]
    exact List.cons_ne_nil _ _
  rw [cut, octets_append, octets_append, octets_mark (b := 58) rfl, octets_mark (b := 44) rfl,
    List.append_assoc, List.cons_append]

/-! ## How a value begins -/

theorem number_leads {n : Number} (literal : n.Literal) :
    ∃ b tail, octets (printNumber n) = b :: tail ∧
      (b = 45 ∨ ∃ d, d < 10 ∧ b = UInt8.ofNat (48 + d)) := by
  rw [printNumber_eq]
  cases n.negative with
  | true =>
    refine ⟨45, octets (digitChars n.whole ++ fractionChars n.fraction ++
      exponentChars n.exponent), ?_, .inl rfl⟩
    simp only [if_true, List.append_assoc, List.singleton_append]
    exact octets_mark rfl _
  | false =>
    obtain ⟨d, ds, eq, -⟩ := literal.leading
    have hd : d < 10 := literal.whole d (by rw [eq]; exact List.mem_cons_self)
    refine ⟨UInt8.ofNat (48 + d), octets (digitChars ds) ++ octets (fractionChars n.fraction) ++
      octets (exponentChars n.exponent), ?_, .inr ⟨d, hd, rfl⟩⟩
    simp only [Bool.false_eq_true, if_false, List.nil_append, octets_append, eq,
      octets_digitChars_cons hd, List.cons_append]

/-- The first byte of a value is no blank and no closing bracket. -/
theorem value_leads {json : Json} (writable : json.Writable) :
    ∃ b tail, octets json.print = b :: tail ∧ isBlank b = false ∧ b ≠ 93 := by
  cases json with
  | null => exact ⟨110, [117, 108, 108], rfl, rfl, by decide⟩
  | bool value =>
    cases value with
    | true => exact ⟨116, [114, 117, 101], rfl, rfl, by decide⟩
    | false => exact ⟨102, [97, 108, 115, 101], rfl, rfl, by decide⟩
  | number n =>
    obtain ⟨b, tail, eq, sign | ⟨d, digit, rfl⟩⟩ := number_leads writable
    · subst sign
      exact ⟨45, tail, eq, rfl, by decide⟩
    · refine ⟨UInt8.ofNat (48 + d), tail, eq, ?_⟩
      clear eq
      decide +revert
  | text value => exact ⟨34, _, octets_mark rfl _, rfl, by decide⟩
  | array items => exact ⟨91, _, octets_array items, rfl, by decide⟩
  | object members => exact ⟨123, _, octets_object members, rfl, by decide⟩

theorem items_lead {item : Json} (items : List Json) (writable : item.Writable) :
    ∃ b tail, octets (printItems (item :: items)) = b :: tail ∧ isBlank b = false ∧ b ≠ 93 := by
  obtain ⟨b, tail, eq, first⟩ := value_leads writable
  cases items with
  | nil => exact ⟨b, tail, eq, first⟩
  | cons next items =>
    refine ⟨b, tail ++ 44 :: octets (printItems (next :: items)), ?_, first⟩
    rw [octets_items, eq, List.cons_append]

theorem members_lead (name : Option String) (value : Json) (rest : List (Option String × Json)) :
    ∃ tail, octets (printMembers ((name, value) :: rest)) = 34 :: tail := by
  cases rest with
  | nil => exact ⟨_, by rw [octets_member]; exact congrArg (· ++ _) (octets_mark rfl _)⟩
  | cons next rest => exact ⟨_, by rw [octets_members]; exact congrArg (· ++ _) (octets_mark rfl _)⟩

/-! ## Reading back -/

theorem value?_number {n : Number} {fuel : Nat} {rest : Bytes} (literal : n.Literal)
    (closes : Closes rest) :
    value? (fuel + 1) (octets (printNumber n) ++ rest) = some (.number n, rest) := by
  have read := number?_printNumber literal closes.endsNumber
  obtain ⟨b, tail, eq, first⟩ := number_leads literal
  rw [eq, List.cons_append] at read ⊢
  have begins : isBlank b = false ∧ b ≠ 34 ∧ b ≠ 91 ∧ b ≠ 123 ∧ b ≠ 110 ∧ b ≠ 116 ∧ b ≠ 102 := by
    rcases first with rfl | ⟨d, digit, rfl⟩
    · decide
    · clear eq read
      decide +revert
  obtain ⟨blank, quote, array, object, null, yes, no⟩ := begins
  rw [value?, skipBlanks_cons blank]
  split
  next same => cases same
  next same => exact absurd (List.cons.inj same).1 quote
  next same => exact absurd (List.cons.inj same).1 array
  next same => exact absurd (List.cons.inj same).1 object
  next same => exact absurd (List.cons.inj same).1 null
  next same => exact absurd (List.cons.inj same).1 yes
  next same => exact absurd (List.cons.inj same).1 no
  next => rw [read]; rfl

mutual
/-- A value is read back from what is printed of it. -/
theorem value?_print : (json : Json) → json.Writable → (fuel : Nat) → (rest : Bytes) →
    2 * (octets json.print).length ≤ fuel → Closes rest →
    value? fuel (octets json.print ++ rest) = some (json, rest)
  | .null, _, fuel + 1, rest, _, _ => rfl
  | .bool true, _, fuel + 1, rest, _, _ => rfl
  | .bool false, _, fuel + 1, rest, _, _ => rfl
  | .number n, writable, 0, rest, enough, _ => by
    obtain ⟨b, tail, eq, -⟩ := number_leads writable
    rw [print, eq, List.length_cons] at enough
    omega
  | .number n, writable, fuel + 1, rest, _, closes => value?_number writable closes
  | .text (some content), _, fuel + 1, rest, _, _ => by
    obtain ⟨quoted, read⟩ := literal?_quote content rest
    rw [print, Option.getD_some, quoted, value?, skipBlanks_cons rfl]
    simp only [read, Option.map_some]
  | .array [], _, fuel + 1, rest, _, _ => rfl
  | .array (item :: items), writable, fuel + 1, rest, enough, _ => by
    rw [octets_array] at enough ⊢
    simp only [List.length_cons, List.length_append, List.length_nil] at enough
    have read := items?_print item items writable fuel rest (by omega)
    obtain ⟨b, tail, begins, blank, bracket⟩ := items_lead items writable.1
    simp only [List.cons_append, List.append_assoc, List.nil_append, begins] at read ⊢
    rw [value?, skipBlanks_cons rfl]
    simp only [skipBlanks_cons blank]
    split
    next same => exact absurd (List.cons.inj same).1 bracket
    next => rw [read]; rfl
  | .object [], _, fuel + 1, rest, _, _ => rfl
  | .object ((some name, value) :: members), writable, fuel + 1, rest, enough, _ => by
    rw [octets_object] at enough ⊢
    simp only [List.length_cons, List.length_append, List.length_nil] at enough
    have read := members?_print name value members writable fuel rest (by omega)
    obtain ⟨tail, begins⟩ := members_lead (some name) value members
    simp only [List.cons_append, List.append_assoc, List.nil_append, begins] at read ⊢
    rw [value?, skipBlanks_cons rfl]
    simp only [skipBlanks_cons (b := 34) rfl]
    split
    next same => exact absurd (List.cons.inj same).1 (by decide)
    next => rw [read]; rfl

theorem items?_print : (item : Json) → (items : List Json) → WritableItems (item :: items) →
    (fuel : Nat) → (rest : Bytes) → 2 * (octets (printItems (item :: items))).length + 1 ≤ fuel →
    items? fuel (octets (printItems (item :: items)) ++ 93 :: rest) = some (item :: items, rest)
  | item, [], writable, fuel + 1, rest, enough => by
    rw [printItems] at enough ⊢
    have read := value?_print item writable.1 fuel (93 :: rest) (by omega) (.inr (.inl rfl))
    rw [items?, read]
    rfl
  | item, next :: items, writable, fuel + 1, rest, enough => by
    rw [octets_items] at enough ⊢
    simp only [List.length_append, List.length_cons] at enough
    rw [List.append_assoc, List.cons_append]
    have read := value?_print item writable.1 fuel
      (44 :: (octets (printItems (next :: items)) ++ 93 :: rest)) (by omega) (.inl rfl)
    have more := items?_print next items writable.2 fuel rest (by omega)
    simp only [items?, read, Option.bind_eq_bind, Option.bind_some, skipBlanks_cons (b := 44) rfl,
      more]
    rfl

theorem members?_print : (name : String) → (value : Json) →
    (members : List (Option String × Json)) → WritableMembers ((some name, value) :: members) →
    (fuel : Nat) → (rest : Bytes) →
    2 * (octets (printMembers ((some name, value) :: members))).length + 1 ≤ fuel →
    members? fuel (octets (printMembers ((some name, value) :: members)) ++ 125 :: rest) =
      some ((some name, value) :: members, rest)
  | name, value, [], writable, fuel + 1, rest, enough => by
    rw [octets_member] at enough ⊢
    simp only [List.length_append, List.length_cons] at enough
    rw [Option.getD_some, List.append_assoc, List.cons_append]
    obtain ⟨quoted, named⟩ := literal?_quote name (58 :: (octets value.print ++ 125 :: rest))
    have read := value?_print value writable.2.1 fuel (125 :: rest) (by omega) (.inr (.inr rfl))
    rw [quoted]
    simp only [members?, skipBlanks_cons (b := 34) rfl, named, Option.bind_eq_bind,
      Option.bind_some, skipBlanks_cons (b := 58) rfl, read]
    rfl
  | name, value, (some name', value') :: members, writable, fuel + 1, rest, enough => by
    rw [octets_members] at enough ⊢
    simp only [List.length_append, List.length_cons] at enough
    simp only [Option.getD_some, List.append_assoc, List.cons_append]
    obtain ⟨quoted, named⟩ := literal?_quote name (58 :: (octets value.print ++
      44 :: (octets (printMembers ((some name', value') :: members)) ++ 125 :: rest)))
    have read := value?_print value writable.2.1 fuel
      (44 :: (octets (printMembers ((some name', value') :: members)) ++ 125 :: rest))
      (by omega) (.inl rfl)
    have more := members?_print name' value' members writable.2.2 fuel rest (by omega)
    rw [quoted]
    simp only [members?, skipBlanks_cons (b := 34) rfl, named, Option.bind_eq_bind,
      Option.bind_some, skipBlanks_cons (b := 58) rfl, read, skipBlanks_cons (b := 44) rfl, more]
    rfl
end

/-- A document is read back from its frame. -/
theorem parse?_encode {json : Json} (writable : json.Writable) :
    parse? json.encode = some json := by
  have read := value?_print json writable (2 * (octets json.print).length + 2) [] (by omega) trivial
  rw [List.append_nil] at read
  change parse? (octets json.print) = some json
  rw [parse?, read]
  rfl

end GameRealm.Json
