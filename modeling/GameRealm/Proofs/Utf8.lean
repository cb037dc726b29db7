import Mathlib.Tactic.SplitIfs
import GameRealm.Text.Utf8

/-!
# A text survives its UTF-8 form

The scanner is a machine over single bytes, the encoder writes one to four bytes for a
character. `scanFrom_utf8EncodeChar` joins them: standing between characters, the scanner
reads exactly one character back from the bytes of one and stands between characters
again. `decode_octets` is that over a whole text.

`octets` names the bytes of a list of characters, so that what is printed can be cut
into the parts that a reader takes one after the other.
-/

namespace GameRealm.Utf8

/-! ## The bytes of characters -/

def octets (cs : List Char) : Bytes := cs.flatMap String.utf8EncodeChar

@[simp] theorem octets_nil : octets [] = [] := rfl

theorem octets_cons (c : Char) (cs : List Char) :
    octets (c :: cs) = String.utf8EncodeChar c ++ octets cs := List.flatMap_cons

@[simp] theorem octets_append (cs ds : List Char) : octets (cs ++ ds) = octets cs ++ octets ds :=
  List.flatMap_append

theorem octets_toList (text : String) : octets text.toList = encode text := rfl

theorem toNat_octet {n : Nat} (h : n < 256) : (UInt8.ofNat n).toNat = n :=
  UInt8.toNat_ofNat_of_lt' h

theorem utf8EncodeChar_ascii {c : Char} (h : c.toNat < 128) :
    String.utf8EncodeChar c = [UInt8.ofNat c.toNat] :=
  if_pos (Nat.le_of_lt_succ h)

theorem le_of_mem_utf8EncodeChar {c : Char} (h : 128 ≤ c.toNat) {b : UInt8}
    (mem : b ∈ String.utf8EncodeChar c) : 128 ≤ b.toNat := by
  have val : c.val.toNat = c.toNat := rfl
  simp only [String.utf8EncodeChar, val] at mem
  split_ifs at mem with one two three
  · omega
  all_goals
    simp only [List.mem_cons, List.not_mem_nil, or_false] at mem
    rcases mem with rfl | rfl | rfl | rfl <;> rw [toNat_octet (by omega)] <;> omega

/-! ## What a byte leads to -/

theorem scanFrom_one {n : Nat} (h : n < 128) (rest : Bytes) :
    scanFrom .between (UInt8.ofNat n :: rest) = some (Char.ofNat n) :: scanFrom .between rest := by
  have hn : (UInt8.ofNat n).toNat = n := toNat_octet (by omega)
  have ascii : UInt8.ofNat n < 0x80 := by
    rw [UInt8.lt_iff_toNat_lt, hn]
    exact h
  simp [scanFrom, step, lead, ascii, hn]

theorem lead_two {n : Nat} (h : n < 32) (shortest : 2 ≤ n) :
    lead (UInt8.ofNat (n + 192)) = (.inside 0 0x80 0xBF n, []) := by
  decide +revert

theorem lead_three {n : Nat} (h : n < 16) :
    lead (UInt8.ofNat (n + 224)) =
      (.inside 1 (if n = 0 then 0xA0 else 0x80) (if n = 13 then 0x9F else 0xBF) n, []) := by
  decide +revert

theorem lead_four {n : Nat} (h : n < 5) :
    lead (UInt8.ofNat (n + 240)) =
      (.inside 2 (if n = 0 then 0x90 else 0x80) (if n = 4 then 0x8F else 0xBF) n, []) := by
  decide +revert

theorem scanFrom_lead {b : UInt8} {state : State} (h : lead b = (state, [])) (rest : Bytes) :
    scanFrom .between (b :: rest) = scanFrom state rest := by
  simp [scanFrom, step, h]

theorem scanFrom_inside (missing : Nat) {low high : UInt8} (value : Nat) {n : Nat} (h : n < 64)
    (above : low.toNat ≤ n + 128) (below : n + 128 ≤ high.toNat) (rest : Bytes) :
    scanFrom (.inside missing low high value) (UInt8.ofNat (n + 128) :: rest) =
      match missing with
      | 0 => some (Char.ofNat (64 * value + n)) :: scanFrom .between rest
      | missing + 1 => scanFrom (.inside missing 0x80 0xBF (64 * value + n)) rest := by
  have hn : (UInt8.ofNat (n + 128)).toNat = n + 128 := toNat_octet (by omega)
  have range : low ≤ UInt8.ofNat (n + 128) ∧ UInt8.ofNat (n + 128) ≤ high := by
    simp only [UInt8.le_iff_toNat_le, hn]
    exact ⟨above, below⟩
  cases missing <;> simp only [scanFrom, step, if_pos range, hn, Nat.add_sub_cancel] <;> rfl

/-! ## Reading back -/

/-- The scanner gives a character back and goes on behind its bytes. -/
theorem scanFrom_utf8EncodeChar (c : Char) (rest : Bytes) :
    scanFrom .between (String.utf8EncodeChar c ++ rest) = some c :: scanFrom .between rest := by
  -- The narrowed ranges behind `E0`, `ED`, `F0` and `F4` are met because the character is
  -- none that a shorter sequence spells, no surrogate and not past U+10FFFF.
  have valid : c.toNat < 0xD800 ∨ 0xDFFF < c.toNat ∧ c.toNat < 0x110000 := c.valid
  have back : Char.ofNat c.toNat = c := Char.ofNat_toNat c
  have val : c.val.toNat = c.toNat := rfl
  simp only [String.utf8EncodeChar, val]
  generalize c.toNat = v at *
  split_ifs with one two three
  · rw [List.singleton_append, scanFrom_one (by omega), back]
  · have whole : 64 * (v / 64 % 32) + v % 64 = v := by omega
    simp only [List.cons_append, List.nil_append]
    rw [scanFrom_lead (lead_two (by omega) (by omega)),
      scanFrom_inside 0 _ (by omega) (by simp) (by simp; omega), whole, back]
  · have whole : 64 * (64 * (v / 4096 % 16) + v / 64 % 64) + v % 64 = v := by omega
    simp only [List.cons_append, List.nil_append]
    rw [scanFrom_lead (lead_three (by omega)), scanFrom_inside 1 _ (by omega)
      (by split_ifs <;> simp; omega) (by split_ifs <;> simp <;> omega)]
    simp only
    rw [scanFrom_inside 0 _ (by omega) (by simp) (by simp; omega), whole, back]
  · have whole :
        64 * (64 * (64 * (v / 262144 % 8) + v / 4096 % 64) + v / 64 % 64) + v % 64 = v := by omega
    simp only [List.cons_append, List.nil_append]
    rw [scanFrom_lead (lead_four (by omega)), scanFrom_inside 2 _ (by omega)
      (by split_ifs <;> simp; omega) (by split_ifs <;> simp <;> omega)]
    simp only
    rw [scanFrom_inside 1 _ (by omega) (by simp) (by simp; omega)]
    simp only
    rw [scanFrom_inside 0 _ (by omega) (by simp) (by simp; omega), whole, back]

theorem scan_octets (cs : List Char) : scan (octets cs) = cs.map some := by
  induction cs with
  | nil => rfl
  | cons c cs ih =>
    rw [octets_cons, scan, scanFrom_utf8EncodeChar]
    exact congrArg (some c :: ·) ih

theorem decode_octets (cs : List Char) : decode? (octets cs) = some (String.ofList cs) := by
  have chars : (cs.map some).mapM id = some cs := by
    induction cs with
    | nil => rfl
    | cons c cs ih => simp [ih]
  rw [decode?, scan_octets, chars]
  rfl

/-- The forgiving reader finds no gap in it. -/
theorem decodeLossy_encode (text : String) : decodeLossy (encode text) = text := by
  have chars : (text.toList.map some).map (fun c => c.getD (Char.ofNat 0xFFFD)) = text.toList :=
    List.map_map.trans (List.map_id _)
  rw [decodeLossy, ← octets_toList, scan_octets, chars, String.ofList_toList]

theorem zero_not_mem_encode {text : String} (free : Char.ofNat 0 ∉ text.toList) :
    0 ∉ encode text := by
  intro mem
  obtain ⟨c, inside, mem⟩ := List.mem_flatMap.mp mem
  rcases Nat.lt_or_ge c.toNat 128 with ascii | other
  · rw [utf8EncodeChar_ascii ascii, List.mem_singleton] at mem
    have zero : c.toNat = 0 := by
      rw [← toNat_octet (Nat.lt_trans ascii (by decide)), ← mem]
      rfl
    exact free (by rwa [← Char.ofNat_toNat c, zero] at inside)
  · exact absurd (le_of_mem_utf8EncodeChar other mem) (by decide)

end GameRealm.Utf8
