import Multiworld.Proofs.Outcome
import Multiworld.Text.Utf8

/-!
# UTF-8, both ways

Octets are read as a text exactly if they are the octets of that text. A character is
spelled by one to four octets; the reader takes such a spelling off the front of any octets,
and takes nothing else for a character.

## Main definitions

* `Utf8.Spells`: octets that spell a character

## Main results

* `Utf8.next_eq_char_iff`: the characters that the reader takes off
* `Text.decode_eq_ok_iff`: a text is read from its octets, and from no others
* `Text.encode_lt_encode`: texts are in the order of their octets
-/

namespace Multiworld

namespace Utf8

/-! ## Spellings -/

theorem isContinuation_iff {b : UInt8} : isContinuation b ↔ 0x80 ≤ b.toNat ∧ b.toNat ≤ 0xBF := by
  simp [isContinuation, UInt8.le_iff_toNat_le]

theorem second3_iff {a b : UInt8} :
    second3 a b ↔ 0x80 ≤ b.toNat ∧ b.toNat ≤ 0xBF ∧ (a.toNat = 0xE0 → 0xA0 ≤ b.toNat) ∧
      (a.toNat = 0xED → b.toNat ≤ 0x9F) := by
  simp only [second3, isContinuation, ← UInt8.toNat_inj, UInt8.reduceToNat]
  split
  · simp only [Bool.and_eq_true, decide_eq_true_eq, UInt8.le_iff_toNat_le, UInt8.reduceToNat]
    omega
  · split <;>
      simp only [Bool.and_eq_true, decide_eq_true_eq, UInt8.le_iff_toNat_le, UInt8.reduceToNat] <;>
      omega

theorem second4_iff {a b : UInt8} :
    second4 a b ↔ 0x80 ≤ b.toNat ∧ b.toNat ≤ 0xBF ∧ (a.toNat = 0xF0 → 0x90 ≤ b.toNat) ∧
      (a.toNat = 0xF4 → b.toNat ≤ 0x8F) := by
  simp only [second4, isContinuation, ← UInt8.toNat_inj, UInt8.reduceToNat]
  split
  · simp only [Bool.and_eq_true, decide_eq_true_eq, UInt8.le_iff_toNat_le, UInt8.reduceToNat]
    omega
  · split <;>
      simp only [Bool.and_eq_true, decide_eq_true_eq, UInt8.le_iff_toNat_le, UInt8.reduceToNat] <;>
      omega

/-- The octets that spell the character with a given number, by how many they are. -/
inductive Spells : List UInt8 → Nat → Prop
  | one {a : UInt8} (ha : a.toNat < 0x80) : Spells [a] a.toNat
  | two {a b : UInt8} (ha : 0xC2 ≤ a.toNat ∧ a.toNat ≤ 0xDF) (hb : isContinuation b) :
    Spells [a, b] (a.toNat % 32 * 64 + low b)
  | three {a b c : UInt8} (ha : 0xE0 ≤ a.toNat ∧ a.toNat ≤ 0xEF) (hb : second3 a b)
      (hc : isContinuation c) :
    Spells [a, b, c] (a.toNat % 16 * 4096 + low b * 64 + low c)
  | four {a b c d : UInt8} (ha : 0xF0 ≤ a.toNat ∧ a.toNat ≤ 0xF4) (hb : second4 a b)
      (hc : isContinuation c) (hd : isContinuation d) :
    Spells [a, b, c, d] (a.toNat % 8 * 262144 + low b * 4096 + low c * 64 + low d)

theorem exists_octet {n : Nat} (h : n < 256) : ∃ b : UInt8, b.toNat = n :=
  ⟨UInt8.ofNat n, UInt8.toNat_ofNat_of_lt h⟩

/-- Every character has a spelling. -/
theorem exists_spells {n : Nat} (hn : n.isValidChar) : ∃ s, Spells s n := by
  unfold Nat.isValidChar at hn
  -- The last two octets of a spelling, if it is long enough to have them.
  obtain ⟨d, hd⟩ := exists_octet (show 0x80 + n % 64 < 256 by omega)
  obtain ⟨c, hc⟩ := exists_octet (show 0x80 + n / 64 % 64 < 256 by omega)
  have hd' : isContinuation d := isContinuation_iff.mpr (by omega)
  have hc' : isContinuation c := isContinuation_iff.mpr (by omega)
  by_cases h1 : n < 0x80
  · obtain ⟨a, rfl⟩ := exists_octet (show n < 256 by omega)
    exact ⟨_, .one h1⟩
  by_cases h2 : n < 0x800
  · obtain ⟨a, ha⟩ := exists_octet (show 0xC0 + n / 64 < 256 by omega)
    have h := Spells.two (a := a) (by omega) hd'
    rw [show a.toNat % 32 * 64 + low d = n by unfold low; omega] at h
    exact ⟨_, h⟩
  by_cases h3 : n < 0x10000
  · obtain ⟨a, ha⟩ := exists_octet (show 0xE0 + n / 4096 < 256 by omega)
    have h := Spells.three (a := a) (b := c) (by omega) (second3_iff.mpr (by omega)) hd'
    rw [show a.toNat % 16 * 4096 + low c * 64 + low d = n by unfold low; omega] at h
    exact ⟨_, h⟩
  · obtain ⟨a, ha⟩ := exists_octet (show 0xF0 + n / 262144 < 256 by omega)
    obtain ⟨b, hb⟩ := exists_octet (show 0x80 + n / 4096 % 64 < 256 by omega)
    have h := Spells.four (a := a) (b := b) (by omega) (second4_iff.mpr (by omega)) hc' hd'
    rw [show a.toNat % 8 * 262144 + low b * 4096 + low c * 64 + low d = n by unfold low; omega] at h
    exact ⟨_, h⟩

namespace Spells

variable {s : List UInt8} {n : Nat}

theorem isValidChar (h : Spells s n) : n.isValidChar := by
  unfold Nat.isValidChar
  cases h with
  | one ha => omega
  | two ha hb => unfold low; omega
  | three ha hb hc =>
    rw [second3_iff] at hb
    unfold low
    omega
  | four ha hb hc hd =>
    rw [second4_iff] at hb
    unfold low
    omega

theorem ofNat_eq {n : Nat} {b : UInt8} (h : n = b.toNat) : UInt8.ofNat n = b := by
  rw [h, UInt8.ofNat_toNat]

/-- A spelling is what is written for its character. -/
theorem encode_eq (h : Spells s n) : String.utf8EncodeChar (Char.ofNat n) = s := by
  have hn : (Char.ofNat n).val.toNat = n := by
    rw [Char.ofNat, dif_pos h.isValidChar]
    rfl
  rw [String.utf8EncodeChar, hn]
  cases h with
  | @one a ha => rw [if_pos (by omega), ofNat_eq rfl]
  | @two a b ha hb =>
    rw [isContinuation_iff] at hb
    unfold low
    rw [if_neg (by omega), if_pos (by omega), ofNat_eq (show _ = a.toNat by omega),
      ofNat_eq (show _ = b.toNat by omega)]
  | @three a b c ha hb hc =>
    rw [isContinuation_iff] at hc
    rw [second3_iff] at hb
    unfold low
    rw [if_neg (by omega), if_neg (by omega), if_pos (by omega),
      ofNat_eq (show _ = a.toNat by omega), ofNat_eq (show _ = b.toNat by omega),
      ofNat_eq (show _ = c.toNat by omega)]
  | @four a b c d ha hb hc hd =>
    rw [isContinuation_iff] at hc hd
    rw [second4_iff] at hb
    unfold low
    rw [if_neg (by omega), if_neg (by omega), if_neg (by omega),
      ofNat_eq (show _ = a.toNat by omega), ofNat_eq (show _ = b.toNat by omega),
      ofNat_eq (show _ = c.toNat by omega), ofNat_eq (show _ = d.toNat by omega)]

/-- A spelling is taken off the front of any octets. -/
theorem next_append (h : Spells s n) (rest : List UInt8) :
    next (s ++ rest) = .char (Char.ofNat n) s.length := by
  cases h with
  | @one a ha => simp [next, UInt8.lt_iff_toNat_lt, ha]
  | @two a b ha hb =>
    have h1 : ¬ a.toNat < 0x80 := by omega
    simp [next, UInt8.lt_iff_toNat_lt, UInt8.le_iff_toNat_le, h1, ha, hb]
  | @three a b c ha hb hc =>
    have h1 : ¬ a.toNat < 0x80 := by omega
    have h2 : ¬ a.toNat ≤ 0xDF := by omega
    simp [next, UInt8.lt_iff_toNat_lt, UInt8.le_iff_toNat_le, h1, h2, ha, hb, hc]
  | @four a b c d ha hb hc hd =>
    have h1 : ¬ a.toNat < 0x80 := by omega
    have h2 : ¬ a.toNat ≤ 0xDF := by omega
    have h3 : ¬ a.toNat ≤ 0xEF := by omega
    simp [next, UInt8.lt_iff_toNat_lt, UInt8.le_iff_toNat_le, h1, h2, h3, ha, hb, hc, hd]

/-- Octets that spell a smaller number come first, whatever follows. -/
theorem append_lt_append {t : List UInt8} {m : Nat} (hs : Spells s n) (ht : Spells t m)
    (h : n < m) (r r' : List UInt8) : s ++ r < t ++ r' := by
  -- A longer spelling has the greater first octet; of two that are as long, the digits decide.
  cases hs <;> cases ht <;>
    simp only [isContinuation_iff, second3_iff, second4_iff, low, List.cons_append,
      List.nil_append, List.cons_lt_cons_iff, UInt8.lt_iff_toNat_lt, ← UInt8.toNat_inj] at * <;>
    omega

end Spells

/-- What is written for a character spells it. -/
theorem spells_encodeChar (c : Char) : Spells (String.utf8EncodeChar c) c.toNat := by
  obtain ⟨s, hs⟩ := exists_spells c.valid
  have he := hs.encode_eq
  rw [show Char.ofNat c.val.toNat = c from Char.ofNat_toNat c] at he
  rwa [he]

/-- Only spellings are taken for characters. -/
theorem exists_spells_of_next {bytes : List UInt8} {c : Char} {size : Nat}
    (h : next bytes = .char c size) :
    ∃ s n rest, Spells s n ∧ bytes = s ++ rest ∧ c = Char.ofNat n ∧ size = s.length := by
  revert h
  -- Four branches of the reader take a character off, and all others find fault.
  fun_cases next bytes with
  | case2 a rest ha =>
    rintro ⟨⟩
    exact ⟨_, _, rest, .one ha, rfl, rfl, rfl⟩
  | case4 a _ ha b rest hb =>
    rintro ⟨⟩
    rw [Bool.and_eq_true, decide_eq_true_eq, decide_eq_true_eq] at ha
    exact ⟨_, _, rest, .two ha hb, rfl, rfl, rfl⟩
  | case10 a _ _ ha b c rest hb hc =>
    rintro ⟨⟩
    rw [Bool.and_eq_true, decide_eq_true_eq, decide_eq_true_eq] at ha
    rw [Bool.not_eq_true', Bool.not_eq_false] at hb
    exact ⟨_, _, rest, .three ha hb hc, rfl, rfl, rfl⟩
  | case20 a _ _ _ ha b c d rest hb hc hd =>
    rintro ⟨⟩
    rw [Bool.and_eq_true, decide_eq_true_eq, decide_eq_true_eq] at ha
    rw [Bool.not_eq_true', Bool.not_eq_false] at hb hc
    exact ⟨_, _, rest, .four ha hb hc hd, rfl, rfl, rfl⟩
  | _ => exact nofun

/-- **The characters that the reader takes off** are those whose octets come first. -/
theorem next_eq_char_iff {bytes : List UInt8} {c : Char} {size : Nat} :
    next bytes = .char c size ↔
      ∃ rest, bytes = String.utf8EncodeChar c ++ rest ∧
        size = (String.utf8EncodeChar c).length := by
  constructor
  · intro h
    obtain ⟨s, n, rest, hs, rfl, rfl, rfl⟩ := exists_spells_of_next h
    exact ⟨rest, by rw [hs.encode_eq], by rw [hs.encode_eq]⟩
  · rintro ⟨rest, rfl, rfl⟩
    rw [(spells_encodeChar c).next_append, Char.ofNat_toNat]

theorem next_eq_done_iff {bytes : List UInt8} : next bytes = .done ↔ bytes = [] := by
  constructor
  · intro h
    revert h
    fun_cases next bytes <;> simp
  · rintro rfl
    rfl

/-! ## Texts -/

theorem flatMap_encodeChar_eq_nil {cs : List Char} :
    cs.flatMap String.utf8EncodeChar = [] ↔ cs = [] := by
  cases cs with
  | nil => exact ⟨fun _ => rfl, fun _ => rfl⟩
  | cons c cs => simp [String.utf8EncodeChar_ne_nil]

/-- The characters that are read have the octets there are, whatever has been read before. -/
theorem decodeFrom_eq_ok_iff {fuel index : Nat} {acc cs : List Char} {bytes : List UInt8}
    (h : bytes.length ≤ fuel) :
    decodeFrom fuel index acc bytes = .ok cs ↔
      ∃ ds, cs = acc.reverse ++ ds ∧ ds.flatMap String.utf8EncodeChar = bytes := by
  -- Where no octets are left, there are no further characters.
  have hdone (acc : List Char) : .ok acc.reverse = Except.ok (ε := Utf8Fault) cs ↔
      ∃ ds, cs = acc.reverse ++ ds ∧ ds.flatMap String.utf8EncodeChar = [] := by
    simp only [flatMap_encodeChar_eq_nil, exists_eq_right, List.append_nil, Except.ok.injEq,
      eq_comm]
  induction fuel generalizing index acc bytes with
  | zero =>
    obtain rfl := List.length_eq_zero_iff.mp (Nat.le_zero.mp h)
    exact hdone acc
  | succ fuel ih =>
    rw [decodeFrom]
    cases hn : next bytes with
    | done =>
      obtain rfl := next_eq_done_iff.mp hn
      exact hdone acc
    | char c size =>
      obtain ⟨rest, rfl, rfl⟩ := next_eq_char_iff.mp hn
      have hpos := List.length_pos_iff.mpr (String.utf8EncodeChar_ne_nil (c := c))
      rw [List.length_append] at h
      simp only [List.drop_left, ih (show rest.length ≤ fuel by omega), List.reverse_cons,
        List.append_assoc, List.singleton_append]
      constructor
      · rintro ⟨ds, rfl, rfl⟩
        exact ⟨c :: ds, rfl, List.flatMap_cons⟩
      · rintro ⟨ds, rfl, hds⟩
        -- The octets of the characters start as those of `c`, so the first one is `c`.
        cases ds with
        | nil =>
          have hne := List.append_ne_nil_of_left_ne_nil (String.utf8EncodeChar_ne_nil (c := c)) rest
          exact absurd hds.symm hne
        | cons d ds =>
          rw [List.flatMap_cons] at hds
          have hd := next_eq_char_iff.mpr ⟨_, hds.symm, rfl⟩
          obtain ⟨rfl, -⟩ := Next.char.inj (hn.symm.trans hd)
          exact ⟨ds, rfl, List.append_cancel_left hds⟩
    | bad length =>
      refine iff_of_false nofun ?_
      rintro ⟨ds, -, rfl⟩
      cases ds with
      | nil => cases hn
      | cons d ds => cases hn.symm.trans (next_eq_char_iff.mpr ⟨_, rfl, rfl⟩)

/-- Characters are in the order of their octets. -/
theorem flatMap_encodeChar_lt {cs ds : List Char} (h : cs < ds) :
    cs.flatMap String.utf8EncodeChar < ds.flatMap String.utf8EncodeChar := by
  induction h with
  | @nil d ds =>
    obtain ⟨b, bs, hb⟩ := List.exists_cons_of_ne_nil
      (mt flatMap_encodeChar_eq_nil.mp (List.cons_ne_nil d ds))
    rw [hb]
    exact List.nil_lt_cons b bs
  | @rel c cs d ds hcd =>
    rw [List.flatMap_cons, List.flatMap_cons]
    exact (spells_encodeChar c).append_lt_append (spells_encodeChar d) hcd _ _
  | @cons c cs ds _ ih =>
    rw [List.flatMap_cons, List.flatMap_cons]
    exact List.append_left_lt ih

end Utf8

namespace Text

/-- Texts are in the order of their octets. -/
theorem encode_lt_encode {s t : String} (h : s < t) : encode s < encode t :=
  Utf8.flatMap_encodeChar_lt (String.lt_iff.mp h)

/-- **A text is read from its octets, and from no others.** -/
theorem decode_eq_ok_iff {bytes : List UInt8} {s : String} :
    decode bytes = .ok s ↔ encode s = bytes := by
  rw [decode, map_eq_ok_iff]
  simp only [Utf8.decodeFrom_eq_ok_iff (Nat.le_refl _), List.reverse_nil, List.nil_append, encode]
  constructor
  · rintro ⟨cs, ⟨ds, rfl, rfl⟩, rfl⟩
    rw [String.toList_ofList]
  · rintro rfl
    exact ⟨s.toList, ⟨s.toList, rfl, rfl⟩, String.ofList_toList⟩

end Text

end Multiworld
