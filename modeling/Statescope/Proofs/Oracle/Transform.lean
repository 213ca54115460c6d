-- SUMMARY: The transforms that a position is read from, and what may stand around one.
import Statescope.Oracle.Basic
import Statescope.Proofs.Graph.Snapshot
import Statescope.Proofs.Number.Spelled
import Statescope.Proofs.Text.Occurrence

/-!
# Transforms

A transform is read as two finite numbers between the first `translate(` and the next closing
parenthesis, with the first comma between them (`PositionOracle.parseTranslate?_exact`). A
later `translate(` is never tried.
-/

namespace Statescope.PositionOracle

open Text (BeginsIn)

/-- What the part of a transform that moves begins with. -/
abbrev opening : List Char := "translate(".toList

/-! ## Arguments -/

/-- `argument` stands between the first opening and the closing parenthesis after it. -/
structure Encloses (text before argument after : List Char) : Prop where
  eq_append : text = before ++ opening ++ (argument ++ ')' :: after)
  first : ¬ BeginsIn opening before (opening ++ (argument ++ ')' :: after))
  closes : ')' ∉ argument

/-- `a` and `b` stand there, and the first comma between them. -/
structure Translates (text before a b after : List Char) : Prop where
  eq_append : text = before ++ opening ++ (a ++ ',' :: b ++ ')' :: after)
  first : ¬ BeginsIn opening before (opening ++ (a ++ ',' :: b ++ ')' :: after))
  no_comma : ',' ∉ a
  closes_left : ')' ∉ a
  closes_right : ')' ∉ b

variable {text before argument after a b before' argument' after' a' b' : List Char}

theorem translates_iff : Translates text before a b after ↔
    Encloses text before (a ++ ',' :: b) after ∧ ',' ∉ a := by
  constructor
  · intro h
    refine ⟨⟨h.eq_append, h.first, ?_⟩, h.no_comma⟩
    simp [h.closes_left, h.closes_right]
  · rintro ⟨h, hcomma⟩
    have hcloses := h.closes
    rw [List.mem_append, List.mem_cons] at hcloses
    push Not at hcloses
    exact ⟨h.eq_append, h.first, hcomma, hcloses.1, hcloses.2.2⟩

/-- What is between the parentheses and after them can be changed without the opening
ceasing to be the first one. -/
theorem Encloses.replace (h : Encloses text before argument after) (hcloses : ')' ∉ argument')
    (after' : List Char) :
    Encloses (before ++ opening ++ (argument' ++ ')' :: after')) before argument' after' := by
  have hfirst := h.first
  rw [Text.beginsIn_append_iff] at hfirst
  exact ⟨rfl, by rwa [Text.beginsIn_append_iff], hcloses⟩

theorem translation?_eq_some_iff :
    translation? text = some argument ↔ ∃ before after, Encloses text before argument after := by
  constructor
  · intro h
    simp only [translation?, bind, Option.bind_eq_some_iff, Prod.exists] at h
    obtain ⟨before, rest, hopens, argument', after, hends, heq⟩ := h
    cases heq
    rw [Text.splitFirst?_singleton_eq_some_iff] at hends
    obtain ⟨rfl, hcloses⟩ := hends
    obtain ⟨heq, hfirst⟩ := Text.splitFirst?_eq_some_iff.1 hopens
    exact ⟨before, after, heq, hfirst, hcloses⟩
  · rintro ⟨before, after, h⟩
    rw [translation?, Text.splitFirst?_eq_some_iff.2 ⟨h.eq_append, h.first⟩]
    simp [Text.splitFirst?_append_cons h.closes]

theorem Encloses.unique (h : Encloses text before argument after)
    (h' : Encloses text before' argument' after') :
    before = before' ∧ argument = argument' ∧ after = after' := by
  have hopens := Text.splitFirst?_eq_some_iff.2 ⟨h.eq_append, h.first⟩
  rw [Text.splitFirst?_eq_some_iff.2 ⟨h'.eq_append, h'.first⟩, Option.some_inj,
    Prod.mk.injEq] at hopens
  obtain ⟨hargument, hafter⟩ := (Text.append_cons_inj h'.closes h.closes).1 hopens.2
  exact ⟨hopens.1.symm, hargument.symm, hafter.symm⟩

theorem Translates.unique (h : Translates text before a b after)
    (h' : Translates text before' a' b' after') :
    before = before' ∧ a = a' ∧ b = b' ∧ after = after' := by
  obtain ⟨hbefore, hargument, hafter⟩ := (translates_iff.1 h).1.unique (translates_iff.1 h').1
  obtain ⟨ha, hb⟩ := (Text.append_cons_inj h.no_comma h'.no_comma).1 hargument
  exact ⟨hbefore, ha, hb, hafter⟩

/-! ## Positions -/

/-- The position that an argument spells. -/
def point? (argument : List Char) : Option Position := do
  let (x, y) ← Text.splitFirst? [','] argument
  return ⟨← Spelled.float? (Text.trim x), ← Spelled.float? (Text.trim y)⟩

theorem point?_append_cons (hcomma : ',' ∉ a) (b : List Char) :
    point? (a ++ ',' :: b) = (do
      return ⟨← Spelled.float? (Text.trim a), ← Spelled.float? (Text.trim b)⟩) := by
  rw [point?, Text.splitFirst?_append_cons hcomma]
  rfl

theorem parseTranslate?_eq (text : List Char) :
    parseTranslate? text = (translation? text).bind point? := rfl

theorem Encloses.parseTranslate?_eq (h : Encloses text before argument after) :
    parseTranslate? text = point? argument := by
  rw [PositionOracle.parseTranslate?_eq, translation?_eq_some_iff.2 ⟨before, after, h⟩]
  rfl

theorem parseTranslate?_eq_some_iff {p : Position} : parseTranslate? text = some p ↔
    ∃ before a b after, Translates text before a b after ∧
      Spelled.float? (Text.trim a) = some p.x ∧ Spelled.float? (Text.trim b) = some p.y := by
  constructor
  · intro h
    rw [parseTranslate?_eq, Option.bind_eq_some_iff] at h
    obtain ⟨argument, htranslation, hpoint⟩ := h
    obtain ⟨before, after, hencloses⟩ := translation?_eq_some_iff.1 htranslation
    simp only [point?, bind, Option.bind_eq_some_iff, Prod.exists] at hpoint
    obtain ⟨a, b, hcut, x, hx, y, hy, heq⟩ := hpoint
    cases heq
    obtain ⟨rfl, hcomma⟩ := Text.splitFirst?_singleton_eq_some_iff.1 hcut
    exact ⟨before, a, b, after, translates_iff.2 ⟨hencloses, hcomma⟩, hx, hy⟩
  · rintro ⟨before, a, b, after, htranslates, hx, hy⟩
    obtain ⟨hencloses, hcomma⟩ := translates_iff.1 htranslates
    rw [hencloses.parseTranslate?_eq, point?_append_cons hcomma, hx, hy]
    rfl

theorem isFinite_of_parseTranslate? {p : Position} (h : parseTranslate? text = some p) :
    p.IsFinite := by
  obtain ⟨_, _, _, _, -, hx, hy⟩ := parseTranslate?_eq_some_iff.1 h
  exact ⟨Spelled.isFinite_of_float? hx, Spelled.isFinite_of_float? hy⟩

/-! ## Changes around the numbers -/

theorem parseTranslate?_append_of_not_beginsIn {front : List Char}
    (h : ¬ BeginsIn opening front text) : parseTranslate? (front ++ text) = parseTranslate? text := by
  have htranslation : translation? (front ++ text) = translation? text := by
    simp only [translation?, Text.splitFirst?_append_of_not_beginsIn h, bind, Option.bind_map]
    rfl
  rw [parseTranslate?_eq, htranslation, parseTranslate?_eq]

theorem not_mem_of_blank {c : Char} {blanks : List Char} (hc : Text.isBlank c = false)
    (h : ∀ c ∈ blanks, Text.isBlank c = true) : c ∉ blanks := by
  intro hmem
  rw [h c hmem] at hc
  cases hc

/-- White space around the numbers makes no difference. -/
theorem Translates.parseTranslate?_blanks (h : Translates text before a b after)
    {u v u' v' : List Char} (hblank : ∀ c ∈ u ++ v ++ (u' ++ v'), Text.isBlank c = true) :
    parseTranslate? (before ++ opening ++ ((u ++ a ++ v) ++ ',' :: (u' ++ b ++ v') ++ ')' :: after))
      = parseTranslate? text := by
  obtain ⟨hencloses, hcomma⟩ := translates_iff.1 h
  simp only [List.forall_mem_append] at hblank
  obtain ⟨⟨hu, hv⟩, hu', hv'⟩ := hblank
  have hcomma' : ',' ∉ u ++ a ++ v := by
    simp [hcomma, not_mem_of_blank (c := ',') (by decide) hu,
      not_mem_of_blank (c := ',') (by decide) hv]
  have hcloses {blanks : List Char} (h : ∀ c ∈ blanks, Text.isBlank c = true) : ')' ∉ blanks :=
    not_mem_of_blank (by decide) h
  have hargument : ')' ∉ (u ++ a ++ v) ++ ',' :: (u' ++ b ++ v') := by
    simp [h.closes_left, h.closes_right, hcloses hu, hcloses hv, hcloses hu', hcloses hv']
  rw [(hencloses.replace hargument after).parseTranslate?_eq, hencloses.parseTranslate?_eq,
    point?_append_cons hcomma', point?_append_cons hcomma, Text.trim_append_append hu hv,
    Text.trim_append_append hu' hv']

/-! ## Reading a transform -/

/-- A text is read as a position exactly if two finite numbers stand between its first opening
and the closing parenthesis after it, with the first comma between them, and there is only
one way to find them. If anything is wrong with the first opening, nothing is read. What
follows the closing parenthesis, white space around the numbers, and what is put before the
text without an opening that begins in it make no difference. -/
theorem parseTranslate?_exact (text : List Char) :
    (∀ p, parseTranslate? text = some p ↔ ∃ before a b after, Translates text before a b after ∧
      Spelled.float? (Text.trim a) = some p.x ∧ Spelled.float? (Text.trim b) = some p.y) ∧
    (∀ p, parseTranslate? text = some p → p.IsFinite) ∧
    (parseTranslate? text = none ↔ ∀ before a b after, Translates text before a b after →
      Spelled.float? (Text.trim a) = none ∨ Spelled.float? (Text.trim b) = none) ∧
    (∀ before a b after before' a' b' after', Translates text before a b after →
      Translates text before' a' b' after' →
        before = before' ∧ a = a' ∧ b = b' ∧ after = after') ∧
    (∀ before argument after after', Encloses text before argument after →
      parseTranslate? (before ++ opening ++ (argument ++ ')' :: after')) = parseTranslate? text) ∧
    (∀ before a b after u v u' v', Translates text before a b after →
      (∀ c ∈ u ++ v ++ (u' ++ v'), Text.isBlank c = true) →
        parseTranslate?
            (before ++ opening ++ ((u ++ a ++ v) ++ ',' :: (u' ++ b ++ v') ++ ')' :: after))
          = parseTranslate? text) ∧
    (∀ front, ¬ BeginsIn opening front text →
      parseTranslate? (front ++ text) = parseTranslate? text) := by
  refine ⟨fun p => parseTranslate?_eq_some_iff, fun p => isFinite_of_parseTranslate?, ?_,
    fun _ _ _ _ _ _ _ _ h h' => h.unique h', ?_, fun _ _ _ _ _ _ _ _ h hblank =>
      h.parseTranslate?_blanks hblank, fun _ => parseTranslate?_append_of_not_beginsIn⟩
  · rw [Option.eq_none_iff_forall_ne_some]
    constructor
    · intro hnone before a b after htranslates
      by_contra hspelled
      rw [not_or, ← ne_eq, ← ne_eq, Option.ne_none_iff_exists', Option.ne_none_iff_exists'] at hspelled
      obtain ⟨⟨x, hx⟩, y, hy⟩ := hspelled
      exact hnone ⟨x, y⟩ (parseTranslate?_eq_some_iff.2 ⟨before, a, b, after, htranslates, hx, hy⟩)
    · intro hnone p hread
      obtain ⟨before, a, b, after, htranslates, hx, hy⟩ := parseTranslate?_eq_some_iff.1 hread
      rcases hnone before a b after htranslates with h | h
      · rw [hx] at h
        cases h
      · rw [hy] at h
        cases h
  · intro before argument after after' h
    rw [(h.replace h.closes after').parseTranslate?_eq, h.parseTranslate?_eq]

theorem parseTranslate?_exact_of_second_function :
    Translates "scale(1) translate(-4,8)".toList "scale(1) ".toList "-4".toList "8".toList [] ∧
    parseTranslate? "scale(1) translate(-4,8)".toList = some ⟨-4, 8⟩ ∧
    parseTranslate? "scale(1) translate(-4,8) translate(0,0)".toList = some ⟨-4, 8⟩ ∧
    parseTranslate? "scale(1) translate( -4\t,\n8 )".toList = some ⟨-4, 8⟩ ∧
    parseTranslate? "translate scale(1) translate(-4,8)".toList = some ⟨-4, 8⟩ := by
  have htranslates : Translates "scale(1) translate(-4,8)".toList "scale(1) ".toList "-4".toList
      "8".toList [] :=
    { eq_append := by decide
      first := by decide
      no_comma := by decide
      closes_left := by decide
      closes_right := by decide }
  obtain ⟨hread, -, -, -, hafter, hblank, hfront⟩ :=
    parseTranslate?_exact "scale(1) translate(-4,8)".toList
  have hplain : parseTranslate? "scale(1) translate(-4,8)".toList = some ⟨-4, 8⟩ :=
    (hread ⟨-4, 8⟩).2 ⟨_, _, _, _, htranslates, by decide +kernel, by decide +kernel⟩
  refine ⟨htranslates, hplain, ?_, ?_, ?_⟩
  · rw [← hplain, ← hafter _ _ _ " translate(0,0)".toList (translates_iff.1 htranslates).1]
    rfl
  · have hblanks : ∀ c ∈ [' '] ++ ['\t'] ++ (['\n'] ++ [' ']), Text.isBlank c = true := by
      simp only [List.forall_mem_append, List.forall_mem_singleton]
      decide
    rw [← hplain, ← hblank _ _ _ _ _ _ _ _ htranslates hblanks]
    rfl
  · rw [← hplain, ← hfront "translate ".toList (by decide)]
    rfl

/-- A later opening is not tried. -/
example : parseTranslate? "translate(12) translate(1,2)".toList = none := by decide +kernel

end Statescope.PositionOracle
