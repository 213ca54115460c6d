-- SUMMARY: Numerals and quoted texts read back as what was written.
import Mathlib
import Statescope.Json.Parser
import Statescope.Json.Printer

/-!
# Scalars read back

A numeral ends where something follows that cannot belong to it, and a quoted text
ends at its quote. Both are read as what was written, whatever comes afterwards.
-/

namespace Statescope.Json.Source

/-- The source of some characters. -/
def spell (cs : List Char) : Source := cs.map some

@[simp] theorem spell_nil : spell [] = [] := rfl

@[simp] theorem spell_cons (c : Char) (cs : List Char) : spell (c :: cs) = some c :: spell cs := rfl

@[simp] theorem spell_append (cs cs' : List Char) : spell (cs ++ cs') = spell cs ++ spell cs' :=
  List.map_append

@[simp] theorem length_spell (cs : List Char) : (spell cs).length = cs.length := List.length_map _

/-! ## Digits -/

/-- What follows is no digit. -/
def EndsDigits (rest : Source) : Prop :=
  ∀ c rest', rest = some c :: rest' → Numeral.digit? c = none

theorem digitChar_ne (d : Fin 10) {c : Char} (hc : Numeral.digit? c = none) :
    Numeral.digitChar d ≠ c := by
  rintro rfl
  rw [Numeral.digit?_digitChar] at hc
  cases hc

theorem digits_of_ends {rest : Source} (h : EndsDigits rest) : digits rest = ([], rest) := by
  match rest with
  | [] | none :: _ => rfl
  | some c :: rest => simp only [digits, h c rest rfl]

theorem digits_spell (ds : List (Fin 10)) {rest : Source} (h : EndsDigits rest) :
    digits (spell (ds.map Numeral.digitChar) ++ rest) = (ds, rest) := by
  induction ds with
  | nil => exact digits_of_ends h
  | cons d ds ih =>
    simp only [List.map_cons, spell_cons, List.cons_append, digits, Numeral.digit?_digitChar, ih]

theorem digits?_spell {ds : List (Fin 10)} (hds : ds ≠ []) {rest : Source} (h : EndsDigits rest) :
    digits? (spell (ds.map Numeral.digitChar) ++ rest) = some (ds, rest) := by
  unfold digits?
  rw [digits_spell ds h]
  cases ds with
  | nil => exact absurd rfl hds
  | cons d ds => rfl

/-- The digits of a number are those that it is read from, with no superfluous zero. -/
theorem exists_digits (n : Nat) : ∃ ds : List (Fin 10),
    Nat.toDigits 10 n = ds.map Numeral.digitChar ∧ Numeral.value ds = n ∧ ds ≠ [] ∧
      isPadded ds = false ∧ (0 < n → ∀ d, ds.head? = some d → d.val ≠ 0) := by
  induction n using Nat.strongRecOn with
  | ind n ih =>
    by_cases hn : n < 10
    · refine ⟨[⟨n, hn⟩], Nat.toDigits_of_lt_base hn, by simp [Numeral.value], by simp, rfl, ?_⟩
      rintro hpos d hd
      cases hd
      exact Nat.pos_iff_ne_zero.1 hpos
    · obtain ⟨ds, hdigits, hvalue, hne, -, hhead⟩ := ih (n / 10) (by omega)
      obtain ⟨d, ds, rfl⟩ := List.exists_cons_of_ne_nil hne
      have hd : d.val ≠ 0 := hhead (by omega) d rfl
      refine ⟨d :: ds ++ [⟨n % 10, by omega⟩], ?_, ?_, by simp, ?_, ?_⟩
      · rw [Nat.toDigits_of_base_le (by omega) (by omega), hdigits, List.map_append]
        rfl
      · rw [Numeral.value, List.foldl_append, ← Numeral.value, hvalue]
        simp only [List.foldl_cons, List.foldl_nil]
        omega
      · cases ds <;> simp [isPadded, hd]
      · rintro - d' hd'
        cases hd'
        exact hd

theorem whole?_spell (n : Nat) {rest : Source} (h : EndsDigits rest) :
    whole? (spell (Nat.toDigits 10 n) ++ rest) = some (n, rest) := by
  obtain ⟨ds, hdigits, hvalue, hne, hpadded, -⟩ := exists_digits n
  unfold whole?
  rw [hdigits, digits?_spell hne h]
  simp [hpadded, hvalue, guard]

/-! ## Numerals -/

/-- What follows cannot continue a numeral. -/
def EndsNumeral (rest : Source) : Prop :=
  ∀ c rest', rest = some c :: rest' → Numeral.digit? c = none ∧ c ≠ '.' ∧ c ≠ 'e' ∧ c ≠ 'E'

theorem EndsNumeral.endsDigits {rest : Source} (h : EndsNumeral rest) : EndsDigits rest :=
  fun c rest' hrest => (h c rest' hrest).1

theorem endsNumeral_nil : EndsNumeral [] := by
  rintro c rest' ⟨⟩

theorem endsNumeral_cons {c : Char} {rest : Source}
    (h : Numeral.digit? c = none ∧ c ≠ '.' ∧ c ≠ 'e' ∧ c ≠ 'E') : EndsNumeral (some c :: rest) := by
  rintro c' rest' ⟨⟩
  exact h

theorem power?_spell (n : Numeral) {rest : Source} (h : EndsNumeral rest) :
    power? (spell (Numeral.render.exponent ['+'] n) ++ rest) = some (n.power, rest) := by
  unfold Numeral.render.exponent
  cases n.power with
  | none =>
    match rest with
    | [] | none :: _ => rfl
    | some c :: rest =>
      have he := (h c rest rfl).2.2
      simp [power?, he.1, he.2]
  | some power =>
    cases power with
    | ofNat e =>
      obtain ⟨ds, hdigits, hvalue, hne, -, -⟩ := exists_digits e
      simp [power?, hdigits, digits?_spell hne h.endsDigits, hvalue]
    | negSucc e =>
      obtain ⟨ds, hdigits, hvalue, hne, -, -⟩ := exists_digits (e + 1)
      simp [power?, hdigits, digits?_spell hne h.endsDigits, hvalue, Int.negSucc_eq]

/-- What a power starts with, if there is one, ends the digits before it. -/
theorem endsFraction (n : Numeral) {rest : Source} (h : EndsNumeral rest) :
    ∀ c rest', spell (Numeral.render.exponent ['+'] n) ++ rest = some c :: rest' →
      Numeral.digit? c = none ∧ c ≠ '.' := by
  intro c rest' hrest
  unfold Numeral.render.exponent at hrest
  cases hpower : n.power with
  | none =>
    rw [hpower] at hrest
    exact ⟨(h c rest' hrest).1, (h c rest' hrest).2.1⟩
  | some power =>
    cases power <;> simp [hpower] at hrest <;> simp [← hrest.1, Numeral.digit?]

theorem fraction?_spell (n : Numeral) {rest : Source}
    (h : ∀ c rest', rest = some c :: rest' → Numeral.digit? c = none ∧ c ≠ '.') :
    fraction? (spell (Numeral.render.point n) ++ rest) = some (n.fraction, rest) := by
  unfold Numeral.render.point
  cases hfraction : n.fraction with
  | nil =>
    match rest with
    | [] | none :: _ => rfl
    | some c :: rest =>
      have hc := (h c rest rfl).2
      simp [fraction?, hc]
  | cons d ds =>
    have hdigits : digits? (spell ((d :: ds).map Numeral.digitChar) ++ rest) = some (d :: ds, rest) :=
      digits?_spell (by simp) fun c rest' hrest => (h c rest' hrest).1
    simp only [spell_cons, List.cons_append, fraction?]
    exact hdigits

/-- What follows the whole part ends its digits. -/
theorem endsDigits_point (n : Numeral) {rest : Source}
    (h : ∀ c rest', rest = some c :: rest' → Numeral.digit? c = none ∧ c ≠ '.') :
    EndsDigits (spell (Numeral.render.point n) ++ rest) := by
  intro c rest' hrest
  unfold Numeral.render.point at hrest
  cases hfraction : n.fraction with
  | nil =>
    rw [hfraction] at hrest
    exact (h c rest' hrest).1
  | cons d ds =>
    simp only [hfraction, spell_cons, List.cons_append, List.cons.injEq, Option.some.injEq] at hrest
    simp [← hrest.1, Numeral.digit?]

/-- A numeral is read as what was written. -/
theorem numeral?_spell (n : Numeral) {rest : Source} (h : EndsNumeral rest) :
    numeral? (spell (n.render ['+']) ++ rest) = some (n, rest) := by
  have hfraction := endsFraction n h
  have hwhole := whole?_spell n.whole (endsDigits_point n hfraction)
  have hsign : numeral? (spell (n.render ['+']) ++ rest)
      = (whole? (spell (Nat.toDigits 10 n.whole)
        ++ (spell (Numeral.render.point n) ++ (spell (Numeral.render.exponent ['+'] n) ++ rest)))).bind
        fun whole => (fraction? whole.2).bind fun fraction => (power? fraction.2).bind fun power =>
          some (⟨n.negative, whole.1, fraction.1, power.1⟩, power.2) := by
    unfold numeral? Numeral.render
    cases n.negative with
    | true => simp
    | false =>
      obtain ⟨ds, hdigits, -, hne, -, -⟩ := exists_digits n.whole
      obtain ⟨d, ds, rfl⟩ := List.exists_cons_of_ne_nil hne
      have hd : Numeral.digitChar d ≠ '-' := digitChar_ne d rfl
      simp [hdigits, hd]
  rw [hsign, hwhole]
  simp [fraction?_spell n hfraction, power?_spell n h]

/-! ## Texts -/

theorem hexDigit?_digitChar {n : Nat} (h : n < 16) : hexDigit? (Nat.digitChar n) = some n := by
  revert n
  decide

theorem assemble?_char (c : Char) (ps : List Piece) :
    assemble? (.char c :: ps) = (assemble? ps).map (c :: ·) := by
  rw [assemble?]
  cases assemble? ps <;> rfl

/-- A unit outside the surrogates is a character by itself. -/
theorem assemble?_unit {n : Nat} (hn : n < 0xD800) (ps : List Piece) :
    assemble? (.unit n :: ps) = (assemble? ps).map (Char.ofNat n :: ·) := by
  have hlow : ¬ 0xD800 ≤ n := by omega
  cases ps with
  | nil => simp [assemble?, hlow]
  | cons p ps =>
    cases p with
    | gap => simp [assemble?, hlow]
    | char c => cases hps : assemble? ps <;> simp [assemble?, hlow, hps]
    | unit low =>
      rw [assemble?]
      simp only [hlow, false_and, if_false]
      cases assemble? (.unit low :: ps) <;> rfl

/-- A character inside quotes is one piece. -/
theorem exists_pieces?_escape (c : Char) (rest : Source) :
    ∃ p, pieces? (spell (escape c) ++ rest)
        = (pieces? rest).map (fun (ps, rest) => (p :: ps, rest)) ∧
      ∀ ps, assemble? (p :: ps) = (assemble? ps).map (c :: ·) := by
  have hletter {letter c' : Char} (hescaped : escaped? letter = some c') (hu : letter ≠ 'u') :
      pieces? (some '\\' :: some letter :: rest)
        = (pieces? rest).map (fun (ps, rest) => (.char c' :: ps, rest)) := by
    rw [pieces?]
    · rw [hescaped]
      cases pieces? rest <;> rfl
    · intro _ _ _ _ _ _ h
      exact hu h
  unfold escape
  split
  · subst c
    exact ⟨_, hletter rfl (by decide), assemble?_char _⟩
  split
  · subst c
    exact ⟨_, hletter rfl (by decide), assemble?_char _⟩
  split
  · subst c
    exact ⟨_, hletter rfl (by decide), assemble?_char _⟩
  split
  · subst c
    exact ⟨_, hletter rfl (by decide), assemble?_char _⟩
  split
  · subst c
    exact ⟨_, hletter rfl (by decide), assemble?_char _⟩
  split
  · subst c
    exact ⟨_, hletter rfl (by decide), assemble?_char _⟩
  split
  · subst c
    exact ⟨_, hletter rfl (by decide), assemble?_char _⟩
  split
  · rename_i hcontrol
    have hc : c.toNat < 32 := hcontrol
    refine ⟨.unit c.toNat, ?_, fun ps => ?_⟩
    · simp only [spell_cons, spell_nil, List.cons_append, List.nil_append]
      have hzero : hexDigit? '0' = some 0 := rfl
      have hnumber : ((0 * 16 + 0) * 16 + c.toNat / 16) * 16 + c.toNat % 16 = c.toNat := by omega
      rw [pieces?, hexDigit?_digitChar (by omega), hexDigit?_digitChar (by omega), hzero]
      simp only [Option.bind_eq_bind, Option.bind_some, hnumber]
      cases pieces? rest <;> rfl
    · rw [assemble?_unit (by omega), Char.ofNat_toNat]
  · rename_i hquote hbackslash _ _ _ _ _ hcontrol
    refine ⟨.char c, ?_, assemble?_char c⟩
    simp only [spell_cons, spell_nil, List.cons_append, List.nil_append]
    have hguard : c ≠ '\\' ∧ ' ' ≤ c := ⟨hbackslash, Char.not_lt.1 hcontrol⟩
    rw [pieces?]
    · rw [guard, if_pos hguard]
      cases pieces? rest <;> rfl
    · exact hquote
    · intro _ _ _ _ _ _ h
      exact hbackslash h
    · intro _ _ _ h
      exact hbackslash h

theorem exists_pieces?_flatMap (cs : List Char) (rest : Source) :
    ∃ ps, pieces? (spell (cs.flatMap escape) ++ (some '"' :: rest)) = some (ps, rest) ∧
      assemble? ps = some cs := by
  induction cs with
  | nil => exact ⟨[], rfl, rfl⟩
  | cons c cs ih =>
    obtain ⟨ps, hpieces, hassemble⟩ := ih
    obtain ⟨p, hescape, hp⟩ := exists_pieces?_escape c (spell (cs.flatMap escape) ++ (some '"' :: rest))
    refine ⟨p :: ps, ?_, by rw [hp, hassemble]; rfl⟩
    rw [List.flatMap_cons, spell_append, List.append_assoc, hescape, hpieces]
    rfl

/-- A quoted text whose opening quote has been read is read as what was written. -/
theorem exists_text?_quote (text : Option String) : ∃ cs, quote text = '"' :: cs ∧
    ∀ rest, text? (spell cs ++ rest) = some (text, rest) := by
  cases text with
  | none => exact ⟨_, rfl, fun rest => rfl⟩
  | some s =>
    refine ⟨s.toList.flatMap escape ++ ['"'], rfl, fun rest => ?_⟩
    obtain ⟨ps, hpieces, hassemble⟩ := exists_pieces?_flatMap s.toList rest
    simp [text?, hpieces, hassemble]

end Statescope.Json.Source
