import Multiworld.Json.Token
import Multiworld.Json.Writer

/-!
# Strings, spelled and read

A character has several spellings inside a string: as it is, by a letter, or by the codes of
its units. Every spelling is read as the character, and what is written for a string is one
of its spellings, so that it reads back.

## Main definitions

* `Json.SpellsString`: the ways to spell a string

## Main results

* `Json.readString_spelled`: every spelling of a string is read as that string
* `Json.spellsString_renderString`: what is written for a string is a spelling of it
* `Json.readString_renderString`: strings read back
-/

namespace Multiworld.Json

/-! ## Spellings -/

/-- The letters that may stand behind a backslash, each with its character. -/
def letters : List (Char × Char) :=
  [('"', '"'), ('\\', '\\'), ('/', '/'), ('b', '\x08'), ('f', '\x0c'), ('n', '\n'),
    ('r', '\r'), ('t', '\t')]

/-- The ways to spell a hexadecimal digit: small or large. -/
def SpellsDigit (n : Nat) (d : Char) : Prop :=
  n < 16 ∧ (d = Nat.digitChar n ∨ d = (Nat.digitChar n).toUpper)

/-- The ways to spell a unit of 16 bits: four hexadecimal digits. -/
inductive SpellsUnit : Nat → List Char → Prop
  | mk {w x y z : Nat} {a b c d : Char} : SpellsDigit w a → SpellsDigit x b → SpellsDigit y c →
      SpellsDigit z d → SpellsUnit (16 * (16 * (16 * w + x) + y) + z) [a, b, c, d]

/-- The ways to spell a character inside a string: as it is, by a letter, or by the units of
its code. A code of more than 16 bits takes two units: of what it has above all codes of 16
bits, the first one holds the upper ten bits and the second one the lower ten. -/
inductive SpellsChar : Char → List Char → Prop
  | plain {c : Char} : c ≠ '"' → c ≠ '\\' → ¬ c.toNat < 0x20 → SpellsChar c [c]
  | letter {c l : Char} : (l, c) ∈ letters → SpellsChar c ['\\', l]
  | code {c : Char} {ds : List Char} : SpellsUnit c.toNat ds → SpellsChar c ('\\' :: 'u' :: ds)
  | pair {c : Char} {ds es : List Char} : 0x10000 ≤ c.toNat →
      SpellsUnit (0xD800 + (c.toNat - 0x10000) / 0x400) ds →
      SpellsUnit (0xDC00 + (c.toNat - 0x10000) % 0x400) es →
        SpellsChar c ('\\' :: 'u' :: (ds ++ '\\' :: 'u' :: es))

/-- The ways to spell the characters of a string. -/
inductive SpellsChars : List Char → List Char → Prop
  | nil : SpellsChars [] []
  | cons {c : Char} {s part cs : List Char} : SpellsChar c part → SpellsChars s cs →
      SpellsChars (c :: s) (part ++ cs)

/-- The ways to spell a string. -/
def SpellsString (s : String) (cs : List Char) : Prop :=
  ∃ body, SpellsChars s.toList body ∧ cs = '"' :: (body ++ ['"'])

/-! ## Units -/

section Units

variable {n : Nat} {d : Char} {ds : List Char}

/-- A hexadecimal digit takes one octet. -/
theorem SpellsDigit.hexValue? (h : SpellsDigit n d) :
    Json.hexValue? d = some n ∧ d.utf8Size = 1 := by
  have hall : ∀ n < 16, (Json.hexValue? (Nat.digitChar n) = some n ∧
      (Nat.digitChar n).utf8Size = 1) ∧ Json.hexValue? (Nat.digitChar n).toUpper = some n ∧
      (Nat.digitChar n).toUpper.utf8Size = 1 := by decide
  obtain ⟨hn, rfl | rfl⟩ := h
  · exact (hall n hn).1
  · exact (hall n hn).2

/-- A unit is judged at the last one of its digits. -/
theorem SpellsUnit.exists_digits (h : SpellsUnit n ds) :
    ∃ a b c d, ds = [a, b, c, d] ∧ unit? [a, b, c, d] = some n ∧ octets [a] < 4 ∧
      octets [b, a] < 4 ∧ octets [c, b, a] < 4 ∧ ¬ octets [d, c, b, a] < 4 := by
  obtain ⟨ha, hb, hc, hd⟩ := h
  obtain ⟨ha, ha'⟩ := ha.hexValue?
  obtain ⟨hb, hb'⟩ := hb.hexValue?
  obtain ⟨hc, hc'⟩ := hc.hexValue?
  obtain ⟨hd, hd'⟩ := hd.hexValue?
  refine ⟨_, _, _, _, rfl, ?_, ?_⟩
  · simp [unit?, ha, hb, hc, hd]
  · simp [octets, ha', hb', hc', hd']

/-- No character is half of a pair. -/
theorem not_half (c : Char) : isLead c.toNat = false ∧ isTrail c.toNat = false := by
  have hvalid : c.toNat < 0xD800 ∨ 0xDFFF < c.toNat ∧ c.toNat < 0x110000 := c.valid
  simp only [isLead, isTrail, Bool.and_eq_false_iff, decide_eq_false_iff_not]
  omega

end Units

/-! ## Reading -/

section Reading

variable {c : Char} {acc part r : List Char} {n : Nat}

theorem stepString_plain (hq : c ≠ '"') (hb : c ≠ '\\') (hc : ¬ c.toNat < 0x20) :
    stepString .plain c = .push c := by
  rw [stepString, if_neg hq, if_neg hb, if_neg hc]

theorem stepString_letter {l : Char} (h : (l, c) ∈ letters) : stepString .escaped l = .push c := by
  simp only [letters, List.mem_cons, Prod.mk.injEq, List.not_mem_nil, or_false] at h
  rcases h with ⟨rfl, rfl⟩ | ⟨rfl, rfl⟩ | ⟨rfl, rfl⟩ | ⟨rfl, rfl⟩ | ⟨rfl, rfl⟩ | ⟨rfl, rfl⟩ |
    ⟨rfl, rfl⟩ | ⟨rfl, rfl⟩ <;> rfl

theorem readStringFrom_push {s : StringState} {d : Char} (h : stepString s c = .push d) :
    readStringFrom acc s (c :: r) = readStringFrom (d :: acc) .plain r := by
  rw [readStringFrom, h]

theorem readStringFrom_goto {s t : StringState} (h : stepString s c = .goto t) :
    readStringFrom acc s (c :: r) = readStringFrom acc t r := by
  rw [readStringFrom, h]

/-- The digits of a code are kept up to the last one. -/
theorem readStringFrom_unit {ds : List Char} (h : SpellsUnit n ds) (acc : List Char)
    (lead : Option Nat) (r : List Char) :
    ∃ d es, unit? (d :: es).reverse = some n ∧ ¬ octets (d :: es) < 4 ∧
      readStringFrom acc (.code lead []) (ds ++ r) =
        readStringFrom acc (.code lead es) (d :: r) := by
  obtain ⟨a, b, c, d, rfl, hunit, h₁, h₂, h₃, h₄⟩ := h.exists_digits
  refine ⟨d, [c, b, a], hunit, h₄, ?_⟩
  simp only [List.cons_append, List.nil_append]
  rw [readStringFrom_goto (t := .code lead [a]), readStringFrom_goto (t := .code lead [b, a]),
    readStringFrom_goto (t := .code lead [c, b, a])]
  · simp only [stepString, h₃, if_true]
  · simp only [stepString, h₂, if_true]
  · simp only [stepString, h₁, if_true]

/-- Every spelling of a character is read as that character. -/
theorem readStringFrom_spelled (h : SpellsChar c part) (acc r : List Char) :
    readStringFrom acc .plain (part ++ r) = readStringFrom (c :: acc) .plain r := by
  cases h with
  | plain hq hb hc => exact readStringFrom_push (stepString_plain hq hb hc)
  | letter hl =>
    rw [List.cons_append, List.cons_append, readStringFrom_goto (t := .escaped) rfl]
    exact readStringFrom_push (stepString_letter hl)
  | code hu =>
    obtain ⟨hlead, htrail⟩ := not_half c
    obtain ⟨d, es, hunit, hoctets, hread⟩ := readStringFrom_unit hu acc none r
    rw [List.cons_append, List.cons_append, readStringFrom_goto (t := .escaped) rfl,
      readStringFrom_goto (t := .code none []) rfl, hread, readStringFrom_push]
    simp only [stepString, if_neg hoctets, hunit, hlead, htrail, Bool.false_eq_true, if_false,
      Char.ofNat_toNat]
  | @pair ds es hlarge hu hu' =>
    have hvalid : c.toNat < 0xD800 ∨ 0xDFFF < c.toNat ∧ c.toNat < 0x110000 := c.valid
    obtain ⟨d, fs, hunit, hoctets, hread⟩ :=
      readStringFrom_unit hu acc none ('\\' :: 'u' :: (es ++ r))
    -- The halves are told apart by their ranges, and together give back the code.
    generalize hl : 0xD800 + (c.toNat - 0x10000) / 0x400 = lead at hunit hread
    generalize ht : 0xDC00 + (c.toNat - 0x10000) % 0x400 = trail at hu'
    have hlead : isLead lead = true := by
      simp only [isLead, Bool.and_eq_true, decide_eq_true_eq]
      omega
    have hnot : isTrail lead = false := by
      simp only [isTrail, Bool.and_eq_false_iff, decide_eq_false_iff_not]
      omega
    have htrail : isTrail trail = true := by
      simp only [isTrail, Bool.and_eq_true, decide_eq_true_eq]
      omega
    have hpair : pairChar lead trail = c := by
      rw [pairChar, show 0x10000 + (lead - 0xD800) * 0x400 + (trail - 0xDC00) = c.toNat by omega,
        Char.ofNat_toNat]
    obtain ⟨d', fs', hunit', hoctets', hread'⟩ := readStringFrom_unit hu' acc (some lead) r
    rw [List.cons_append, List.cons_append, List.append_assoc, List.cons_append, List.cons_append,
      readStringFrom_goto (t := .escaped) rfl, readStringFrom_goto (t := .code none []) rfl, hread,
      readStringFrom_goto (t := .paired lead), readStringFrom_goto (t := .pairedEscaped lead) rfl,
      readStringFrom_goto (t := .code (some lead) []) rfl, hread', readStringFrom_push]
    · simp only [stepString, if_neg hoctets', hunit', htrail, if_true, hpair]
    · simp only [stepString, if_neg hoctets, hunit, hnot, hlead, Bool.false_eq_true, if_false,
        if_true]

theorem readStringFrom_spelledChars {s body : List Char} (h : SpellsChars s body)
    (acc r : List Char) :
    readStringFrom acc .plain (body ++ '"' :: r) = .ok (String.ofList (acc.reverse ++ s), r) := by
  induction h generalizing acc with
  | nil => simp [readStringFrom, stepString]
  | cons hc _ ih =>
    rw [List.append_assoc, readStringFrom_spelled hc, ih, List.reverse_cons, List.append_assoc,
      List.singleton_append]

/-- **Every spelling of a string is read as that string**, behind its opening quote. -/
theorem readString_spelled {s : String} {cs : List Char} (h : SpellsString s cs)
    (r : List Char) : ∃ rest, cs ++ r = '"' :: rest ∧ readString rest = .ok (s, r) := by
  obtain ⟨body, hbody, rfl⟩ := h
  refine ⟨body ++ '"' :: r, by simp, ?_⟩
  rw [readString, readStringFrom_spelledChars hbody, List.reverse_nil, List.nil_append,
    String.ofList_toList]

end Reading

/-! ## Writing -/

theorem spellsDigit_digitChar {n : Nat} (h : n < 16) : SpellsDigit n (Nat.digitChar n) :=
  ⟨h, .inl rfl⟩

theorem spellsChar_escape (c : Char) : SpellsChar c (escape c) := by
  unfold escape
  split
  -- Last come the characters without a letter of their own, of which controls have a code.
  case h_8 hq hb _ _ _ _ _ =>
    split
    · next hc =>
      have hzero : SpellsDigit 0 '0' := spellsDigit_digitChar (by decide)
      have hunit := SpellsUnit.mk hzero hzero
        (spellsDigit_digitChar (n := c.toNat / 16) (by omega))
        (spellsDigit_digitChar (n := c.toNat % 16) (by omega))
      rw [show 16 * (16 * (16 * 0 + 0) + c.toNat / 16) + c.toNat % 16 = c.toNat by omega] at hunit
      exact .code hunit
    · next hc => exact .plain hq hb hc
  all_goals exact .letter (by decide)

/-- What is written for a string is one of its spellings. -/
theorem spellsString_renderString (s : String) : SpellsString s (renderString s) := by
  refine ⟨s.toList.flatMap escape, ?_, rfl⟩
  induction s.toList with
  | nil => exact .nil
  | cons c cs ih => exact .cons (spellsChar_escape c) ih

/-- A string reads back as itself. -/
theorem readString_renderString (s : String) (r : List Char) :
    ∃ cs, renderString s ++ r = '"' :: cs ∧ readString cs = .ok (s, r) :=
  readString_spelled (spellsString_renderString s) r

end Multiworld.Json
