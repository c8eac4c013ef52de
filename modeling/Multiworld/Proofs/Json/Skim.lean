import Mathlib.Data.List.DropRight
import Multiworld.Proofs.Json.Grammar

/-!
# Every value is passed over

Whatever value stands in front of a text, passing over it ends right behind it, however deep
its brackets nest: the steps that are given are enough.

## Main results

* `Json.skimFrom_value`, `Json.skimFrom_inside`: a value, and what is left of a bracket,
  with any brackets around them
* `Json.skim_value`: a value is passed over
-/

namespace Multiworld.Json

/-! ## Blanks -/

section Blanks

variable {ws : List Char}

theorem blanks_nil : Blanks [] := fun _ h => absurd h List.not_mem_nil

theorem Blanks.isBlank (h : Blanks ws) : ∀ c ∈ ws, Json.isBlank c = true := by
  intro c hc
  have hblank := h c hc
  simp only [List.mem_cons, List.not_mem_nil, or_false] at hblank
  rcases hblank with rfl | rfl | rfl | rfl <;> rfl

theorem skipBlanks_append (h : Blanks ws) (cs : List Char) :
    skipBlanks (ws ++ cs) = skipBlanks cs :=
  List.dropWhile_append_of_pos h.isBlank

theorem skipBlanks_skipBlanks (cs : List Char) : skipBlanks (skipBlanks cs) = skipBlanks cs :=
  List.dropWhile_idempotent Json.isBlank cs

theorem skipBlanks_concat (h : Blanks ws) {c : Char} (hc : isBlank c = false) (cs : List Char) :
    skipBlanks (ws ++ [c] ++ cs) = c :: cs := by
  rw [List.append_assoc, skipBlanks_append h]
  exact skipBlanks_cons hc cs

theorem Blanks.endsNumber (h : Blanks ws) {more : List Char} (hmore : EndsNumber more) :
    EndsNumber (ws ++ more) := by
  match ws with
  | [] => exact hmore
  | c :: ws =>
    refine endsNumber_cons ?_ _
    have hblank := h c List.mem_cons_self
    simp only [List.mem_cons, List.not_mem_nil, or_false] at hblank
    rcases hblank with rfl | rfl | rfl | rfl <;> decide

theorem Blanks.endsNumber_concat (h : Blanks ws) {c : Char}
    (hc : c.isDigit = false ∧ c ≠ '.' ∧ c ≠ 'e' ∧ c ≠ 'E') (more : List Char) :
    EndsNumber (ws ++ [c] ++ more) := by
  rw [List.append_assoc]
  exact h.endsNumber (endsNumber_cons hc more)

theorem Separates.endsNumber {sep : List Char} (h : Separates true sep) (more : List Char) :
    EndsNumber (sep ++ more) := by
  cases h with
  | next hws => exact Blanks.endsNumber_concat hws (by decide) more

theorem readColon_blanks (h : Blanks ws) (cs : List Char) :
    readColon (ws ++ ':' :: cs) = .ok cs := by
  rw [readColon, skipBlanks_append h, skipBlanks_cons rfl]
  rfl

end Blanks

/-! ## Strings -/

section Strings

variable {ds more : List Char} {n : Nat} {c : Char}

theorem skimStringFrom_goto {s t : StringState} (hs : ∀ lead ds, s ≠ .code lead ds)
    (h : stepString s c = .goto t) : skimStringFrom s (c :: more) = skimStringFrom t more := by
  rw [skimStringFrom, h]
  exact hs

theorem skimStringFrom_push {s : StringState} {d : Char} (hs : ∀ lead ds, s ≠ .code lead ds)
    (h : stepString s c = .push d) :
    skimStringFrom s (c :: more) = skimStringFrom .plain more := by
  rw [skimStringFrom, h]
  exact hs

/-- The digits of a code are passed over, whatever unit they write. -/
theorem skimStringFrom_unit (h : SpellsUnit n ds) (more : List Char) :
    skimStringFrom (.code none []) (ds ++ more) = skimStringFrom .plain more := by
  obtain ⟨a, b, c, d, rfl, hunit, h₁, h₂, h₃, h₄⟩ := h.exists_digits
  simp only [List.cons_append, List.nil_append, skimStringFrom, h₁, h₂, h₃, h₄, if_true, if_false,
    List.reverse_cons, List.reverse_nil, hunit, Option.isSome_some]

theorem skimStringFrom_body {body : List Char} (h : IsStringBody body) (more : List Char) :
    skimStringFrom .plain (body ++ '"' :: more) = .ok more := by
  induction h with
  | nil => rfl
  | plain hq hb hc _ ih =>
    rw [List.cons_append, skimStringFrom_push (by simp) (stepString_plain hq hb hc), ih]
  | letter hl _ ih =>
    rw [List.cons_append, List.cons_append, skimStringFrom_goto (t := .escaped) (by simp) rfl,
      skimStringFrom_push (by simp) (stepString_letter hl), ih]
  | code hu _ ih =>
    rw [List.cons_append, List.cons_append, List.append_assoc,
      skimStringFrom_goto (t := .escaped) (by simp) rfl,
      skimStringFrom_goto (t := .code none []) (by simp) rfl, skimStringFrom_unit hu, ih]

/-- A string in front of a text, from its opening quote. -/
theorem skimString_append {cs : List Char} (h : IsString cs) (more : List Char) :
    ∃ rest, cs ++ more = '"' :: rest ∧ skimString rest = .ok more := by
  obtain ⟨body, hbody, rfl⟩ := h
  exact ⟨body ++ '"' :: more, by simp, skimStringFrom_body hbody more⟩

end Strings

/-! ## Numbers -/

section Numbers

variable {cs ds fraction exponent more : List Char}

theorem IsExponent.head (h : IsExponent exponent) : ∀ c ∈ exponent.head?, c = 'e' ∨ c = 'E' := by
  cases h <;> simp_all

/-- The digits in front of an exponent end there. -/
theorem IsExponent.endsDigits (h : IsExponent exponent) :
    ∀ c ∈ exponent.head?, c.isDigit = false := by
  intro c hc
  rcases h.head c hc with rfl | rfl <;> rfl

theorem readExponent_of_isExponent (h : IsExponent exponent) :
    ∃ e, readExponent exponent = .ok (e, []) := by
  have hdigits {ds : List Char} (hds : IsDigits ds) : readDigits ds = .ok (ds, []) := by
    have hread : readDigits (ds ++ []) = .ok (ds, []) := readDigits_append hds.1 hds.2 (by simp)
    rwa [List.append_nil] at hread
  cases h with
  | none => exact ⟨none, rfl⟩
  | @unsigned e ds he hds =>
    -- Digits do not start with a sign.
    have hne (s : Char) (hs : s.isDigit = false) : ∀ rest, ds ≠ s :: rest := by
      rintro rest rfl
      exact absurd (hds.2 s List.mem_cons_self) (by simp [hs])
    refine ⟨some (false, ds), ?_⟩
    rw [readExponent, if_pos he, hdigits hds, map_ok]
    · exact hne '-' rfl
    · exact hne '+' rfl
  | signed he hs hds =>
    rcases hs with rfl | rfl
    · exact ⟨_, by rw [readExponent, if_pos he, hdigits hds, map_ok]⟩
    · exact ⟨_, by rw [readExponent, if_pos he, hdigits hds, map_ok]⟩

theorem readFraction_of_isFraction (hf : IsFraction fraction) (he : IsExponent exponent) :
    ∃ f, readFraction (fraction ++ exponent) = .ok (f, exponent) := by
  cases hf with
  | none =>
    refine ⟨none, ?_⟩
    rw [List.nil_append, readFraction]
    rintro rest rfl
    exact absurd (he.head '.' rfl) (by decide)
  | point hds => exact ⟨_, readFraction_point hds.1 hds.2 he.endsDigits⟩

theorem readUnsigned_of_isUnsigned (h : IsUnsigned cs) (negative : Bool) :
    ∃ l, readUnsigned negative cs = .ok (l, []) := by
  obtain ⟨hwhole, hdigits, hf, he⟩ := h
  obtain ⟨f, hf'⟩ := readFraction_of_isFraction hf he
  obtain ⟨e, he'⟩ := readExponent_of_isExponent he
  refine ⟨_, bind_eq_ok_iff.mpr ⟨_, readWhole_append hwhole hdigits ?_,
    bind_eq_ok_iff.mpr ⟨_, hf', bind_eq_ok_iff.mpr ⟨_, he', rfl⟩⟩⟩⟩
  cases hf with
  | none => exact he.endsDigits
  | point _ => simp

theorem IsUnsigned.exists_cons (h : IsUnsigned cs) :
    ∃ c rest, cs = c :: rest ∧ c.isDigit = true := by
  obtain ⟨hwhole, hdigits, -, -⟩ := h
  rcases hwhole with rfl | ⟨c, cs, rfl, -⟩
  · exact ⟨_, _, rfl, rfl⟩
  · exact ⟨c, _, rfl, hdigits c List.mem_cons_self⟩

theorem IsNumber.exists_cons (h : IsNumber cs) :
    ∃ c rest, cs = c :: rest ∧ (c = '-' ∨ c.isDigit = true) := by
  cases h with
  | unsigned h =>
    obtain ⟨c, rest, rfl, hc⟩ := h.exists_cons
    exact ⟨c, rest, rfl, .inr hc⟩
  | negative h => exact ⟨'-', _, rfl, .inl rfl⟩

theorem skimNumber_append (h : IsNumber cs) (hmore : EndsNumber more) :
    skimNumber (cs ++ more) = .ok more := by
  have ⟨l, hl⟩ : ∃ l, readLiteral cs = .ok (l, []) := by
    cases h with
    | unsigned h =>
      obtain ⟨c, rest, rfl, hc⟩ := h.exists_cons
      rw [readLiteral_of_ne (by rintro rfl; cases hc)]
      exact readUnsigned_of_isUnsigned h false
    | negative h => exact readUnsigned_of_isUnsigned h true
  rw [skimNumber, (local_readLiteral hl).2 more hmore, List.nil_append]

end Numbers

/-! ## Scalars -/

section Scalars

variable {cs more : List Char} {c : Char}

/-- What a value may start with, as far as brackets care: no blank and no comma, and nothing
that closes a bracket. -/
def StartsValue (c : Char) : Prop := isBlank c = false ∧ c ≠ ',' ∧ c ≠ ']' ∧ c ≠ '\x7d'

instance : Decidable (StartsValue c) := by
  unfold StartsValue
  infer_instance

theorem skimScalar_number (h : c = '-' ∨ c.isDigit = true) (cs : List Char) :
    skimScalar (c :: cs) = skimNumber (c :: cs) := by
  have hne (d : Char) (hd : d.isDigit = false) (hm : d ≠ '-') : c ≠ d := ne_of_startsNumber h hd hm
  unfold skimScalar
  split
  · next he => cases he
  · next he => exact absurd (List.cons.inj he).1 (hne 'n' rfl (by decide))
  · next he => exact absurd (List.cons.inj he).1 (hne 't' rfl (by decide))
  · next he => exact absurd (List.cons.inj he).1 (hne 'f' rfl (by decide))
  · next he => exact absurd (List.cons.inj he).1 (hne '"' rfl (by decide))
  · next he =>
    obtain ⟨rfl, rfl⟩ := List.cons.inj he
    rw [if_pos h]

theorem skimScalar_append (h : IsScalar cs) (hmore : EndsNumber more) :
    skimScalar (cs ++ more) = .ok more := by
  cases h with
  | isNull | isTrue | isFalse => rfl
  | string h =>
    obtain ⟨rest, hrest, hskim⟩ := skimString_append h more
    rw [hrest]
    exact hskim
  | number h =>
    obtain ⟨c, rest, rfl, hc⟩ := h.exists_cons
    rw [List.cons_append, skimScalar_number hc]
    exact skimNumber_append h hmore

theorem IsScalar.exists_cons (h : IsScalar cs) :
    ∃ c rest, cs = c :: rest ∧ StartsValue c ∧ c ≠ '[' ∧ c ≠ '\x7b' := by
  cases h with
  | isNull | isTrue | isFalse => exact ⟨_, _, rfl, by decide⟩
  | string h =>
    obtain ⟨body, -, rfl⟩ := h
    exact ⟨_, _, rfl, by decide⟩
  | number h =>
    obtain ⟨c, rest, rfl, hc⟩ := h.exists_cons
    have hne (d : Char) (hd : d.isDigit = false) (hm : d ≠ '-') : c ≠ d :=
      ne_of_startsNumber hc hd hm
    exact ⟨c, rest, rfl, ⟨isBlank_of_startsNumber hc, hne ',' rfl (by decide),
      hne ']' rfl (by decide), hne '\x7d' rfl (by decide)⟩, hne '[' rfl (by decide),
      hne '\x7b' rfl (by decide)⟩

end Scalars

/-! ## Brackets -/

section Brackets

variable {fuel : Nat} {outer : List Bracket} {b : Bracket} {comma : Bool}
  {cs sep label ws v more : List Char}

theorem IsValue.exists_cons (h : IsValue cs) : ∃ c rest, cs = c :: rest ∧ StartsValue c := by
  cases h with
  | scalar h =>
    obtain ⟨c, rest, hcs, hc, -⟩ := h.exists_cons
    exact ⟨c, rest, hcs, hc⟩
  | bracket b h => exact ⟨_, _, rfl, by cases b <;> decide⟩

theorem skimFrom_blanks (h : Blanks ws) (cs : List Char) :
    skimFrom fuel .value outer (ws ++ cs) = skimFrom fuel .value outer cs := by
  cases fuel with
  | zero => rfl
  | succ fuel => rw [skimFrom, skimFrom, skipBlanks_append h]

theorem skimFrom_scalar (h : IsScalar v) (hmore : EndsNumber more) :
    skimFrom (fuel + 1) .value outer (v ++ more) = skimFrom fuel (.behind true) outer more := by
  obtain ⟨c, rest, rfl, hc, hlist, hobject⟩ := h.exists_cons
  rw [skimFrom, List.cons_append, skipBlanks_cons hc.1]
  split
  · next he => exact absurd (List.cons.inj he).1 hlist
  · next he => exact absurd (List.cons.inj he).1 hobject
  · rw [← List.cons_append, skimScalar_append h hmore]
    rfl

theorem skimFrom_open (b : Bracket) (cs : List Char) :
    skimFrom (fuel + 1) .value outer (b.opening :: cs) =
      skimFrom fuel (.behind false) (b :: outer) cs := by
  rw [skimFrom, skipBlanks_cons (by cases b <;> rfl)]
  cases b <;> rfl

theorem skimFrom_close (h : Blanks ws) (more : List Char) :
    skimFrom (fuel + 1) (.behind comma) (b :: outer) (ws ++ [b.closing] ++ more) =
      skimFrom fuel (.behind true) outer more := by
  conv_lhs => unfold skimFrom
  rw [skipBlanks_concat h (by cases b <;> rfl)]
  cases b <;> rfl

theorem skimKey_label (h : IsLabel b label) (more : List Char) :
    skimKey b (label ++ more) = .ok more := by
  cases h with
  | item => rfl
  | @key ws key ws' hws hkey hws' =>
    obtain ⟨rest, hrest, hskim⟩ := skimString_append hkey (ws' ++ ':' :: more)
    have hlabel : ws ++ (key ++ (ws' ++ [':'])) ++ more = ws ++ '"' :: rest := by
      simp [← hrest]
    rw [hlabel, skimKey, skipBlanks_append hws, skipBlanks_cons rfl]
    simp only [hskim]
    exact readColon_blanks hws' more

/-- Blanks in front of an entry are passed over with it. -/
theorem skimKey_skipBlanks (b : Bracket) (cs : List Char) :
    (skimKey b (skipBlanks cs)).bind (skimFrom fuel .value outer) =
      (skimKey b cs).bind (skimFrom fuel .value outer) := by
  cases b with
  | list =>
    cases fuel with
    | zero => rfl
    | succ fuel => simp only [skimKey, Except.bind, skimFrom, skipBlanks_skipBlanks]
  | object => rw [skimKey, skimKey, skipBlanks_skipBlanks]

/-- What may start a value starts the first entry of a bracket, behind its opening. -/
theorem skimFrom_first {c : Char} {rest : List Char} (hcs : skipBlanks cs = c :: rest)
    (hc : StartsValue c) :
    skimFrom (fuel + 1) (.behind false) (b :: outer) cs =
      (skimKey b cs).bind (skimFrom fuel .value (b :: outer)) := by
  obtain ⟨-, hcomma, hlist, hobject⟩ := hc
  rw [← skimKey_skipBlanks]
  conv_lhs => unfold skimFrom
  rw [hcs]
  split
  all_goals simp_all

theorem IsLabel.skipBlanks_eq_cons (hlabel : IsLabel b label) (hws : Blanks ws) (hv : IsValue v)
    (more : List Char) :
    ∃ c rest, skipBlanks (label ++ (ws ++ (v ++ more))) = c :: rest ∧ StartsValue c := by
  cases hlabel with
  | item =>
    obtain ⟨c, rest, rfl, hc⟩ := hv.exists_cons
    rw [List.nil_append, skipBlanks_append hws]
    exact ⟨c, _, skipBlanks_cons hc.1 _, hc⟩
  | key hblanks hkey _ =>
    obtain ⟨body, -, rfl⟩ := hkey
    rw [List.append_assoc, skipBlanks_append hblanks]
    exact ⟨'"', _, skipBlanks_cons rfl _, by decide⟩

/-- An entry is passed over up to its value. -/
theorem skimFrom_entry (hsep : Separates comma sep) (hlabel : IsLabel b label) (hws : Blanks ws)
    (hv : IsValue v) (more : List Char) :
    skimFrom (fuel + 1) (.behind comma) (b :: outer) (sep ++ (label ++ (ws ++ (v ++ more)))) =
      skimFrom fuel .value (b :: outer) (v ++ more) := by
  have hkey : (skimKey b (label ++ (ws ++ (v ++ more)))).bind
      (skimFrom fuel .value (b :: outer)) = skimFrom fuel .value (b :: outer) (v ++ more) := by
    rw [skimKey_label hlabel]
    exact skimFrom_blanks hws _
  cases hsep with
  | first =>
    obtain ⟨c, rest, hstart, hc⟩ := hlabel.skipBlanks_eq_cons hws hv more
    rw [List.nil_append, skimFrom_first hstart hc, hkey]
  | next hblanks =>
    conv_lhs => unfold skimFrom
    rw [skipBlanks_concat hblanks rfl]
    exact hkey

/-- What is left of a bracket behind a value ends a number there. -/
theorem IsInside.endsNumber (h : IsInside b true cs) (more : List Char) :
    EndsNumber (cs ++ more) := by
  cases h with
  | close hws => exact Blanks.endsNumber_concat hws (by cases b <;> decide) more
  | entry hsep _ _ _ _ =>
    rw [List.append_assoc]
    exact hsep.endsNumber _

end Brackets

/-! ## Values -/

mutual

/-- Passing over a value takes fewer steps than twice its length, which leaves one for what
comes behind it. -/
theorem skimFrom_value : ∀ {v : List Char}, IsValue v → ∃ n, n + 1 ≤ 2 * v.length ∧
    ∀ (fuel : Nat) (outer : List Bracket) (more : List Char), EndsNumber more →
      skimFrom (fuel + n) .value outer (v ++ more) = skimFrom fuel (.behind true) outer more
  | _, .scalar h => by
    obtain ⟨c, rest, hcs, -⟩ := h.exists_cons
    have hlen : 2 ≤ 2 * (c :: rest).length := by simp
    exact ⟨1, hcs ▸ hlen, fun _ _ _ hmore => skimFrom_scalar h hmore⟩
  | _, .bracket b h => by
    obtain ⟨n, hn, hskim⟩ := skimFrom_inside h
    refine ⟨n + 1, by rw [List.length_cons]; omega, fun fuel outer more _ => ?_⟩
    rw [List.cons_append, ← Nat.add_assoc, skimFrom_open, hskim]

theorem skimFrom_inside : ∀ {b : Bracket} {comma : Bool} {cs : List Char}, IsInside b comma cs →
    ∃ n, n ≤ 2 * cs.length ∧ ∀ (fuel : Nat) (outer : List Bracket) (more : List Char),
      skimFrom (fuel + n) (.behind comma) (b :: outer) (cs ++ more) =
        skimFrom fuel (.behind true) outer more
  | _, _, _, .close hws => by
    refine ⟨1, ?_, fun fuel outer more => skimFrom_close hws more⟩
    rw [List.length_append, List.length_singleton]
    omega
  | _, _, _, .entry hsep hlabel hws hv hrest => by
    obtain ⟨n, hn, hvalue⟩ := skimFrom_value hv
    obtain ⟨m, hm, hinside⟩ := skimFrom_inside hrest
    -- One step takes the entry up to its value.
    refine ⟨m + n + 1, by simp only [List.length_append]; omega, fun fuel outer more => ?_⟩
    simp only [List.append_assoc]
    rw [← Nat.add_assoc, ← Nat.add_assoc, skimFrom_entry hsep hlabel hws hv,
      hvalue _ _ _ (hrest.endsNumber more), hinside]

end

/-- **A value is passed over**, with the blanks in front of it. -/
theorem skim_value {ws v more : List Char} (hws : Blanks ws) (hv : IsValue v)
    (hmore : EndsNumber more) : skim (ws ++ (v ++ more)) = .ok more := by
  obtain ⟨n, hn, hskim⟩ := skimFrom_value hv
  obtain ⟨fuel, hfuel⟩ : ∃ fuel, 2 * (ws ++ (v ++ more)).length + 2 = fuel + 1 + n :=
    ⟨2 * (ws ++ (v ++ more)).length + 1 - n, by simp only [List.length_append]; omega⟩
  rw [skim, skimFrom_blanks hws, hfuel, hskim _ _ _ hmore, skimFrom]

end Multiworld.Json
