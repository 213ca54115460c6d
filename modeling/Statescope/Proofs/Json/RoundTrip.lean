-- SUMMARY: Every document reads back from its text, in either style.
import Statescope.Json.Decoder
import Statescope.Proofs.Json.Scalars

/-!
# Documents read back

The text of a document is read as that very document: numerals with their spelling,
members in their order and with their repetitions. The fuel of the reader is the
length of the text, and each of its calls has at least a character to read.
-/

namespace Statescope.Json

open Source

/-! ## Blanks -/

theorem isBlank_digitChar (d : Fin 10) : isBlank (Numeral.digitChar d) = false := by
  revert d
  decide

theorem skipBlanks_cons {c : Char} (hc : isBlank c = false) (rest : Source) :
    skipBlanks (some c :: rest) = some c :: rest := by
  simp [skipBlanks, hc]

theorem skipBlanks_blanks (n : Nat) (rest : Source) :
    skipBlanks (spell (List.replicate n ' ') ++ rest) = skipBlanks rest := by
  induction n with
  | zero => rfl
  | succ n ih => simpa [List.replicate_succ, skipBlanks, isBlank] using ih

@[simp] theorem skipBlanks_gap (style : Style) (depth : Nat) (rest : Source) :
    skipBlanks (spell (style.gap depth) ++ rest) = skipBlanks rest := by
  cases style with
  | compact => rfl
  | indented => simpa [Style.gap, skipBlanks, isBlank] using skipBlanks_blanks (2 * depth) rest

/-- What separates a key from its value is a colon and blanks. -/
theorem exists_colon (style : Style) : ∃ blanks, style.colon = ':' :: blanks ∧
    ∀ rest, skipBlanks (spell blanks ++ rest) = skipBlanks rest := by
  cases style with
  | compact => exact ⟨[], rfl, fun _ => rfl⟩
  | indented => exact ⟨[' '], rfl, fun rest => skipBlanks_blanks 1 rest⟩

/-- A closing bracket on its line ends a numeral before it. -/
theorem endsNumeral_gap (style : Style) (depth : Nat) {c : Char} (rest : Source)
    (h : Numeral.digit? c = none ∧ c ≠ '.' ∧ c ≠ 'e' ∧ c ≠ 'E') :
    EndsNumeral (spell (style.gap depth) ++ (some c :: rest)) := by
  cases style with
  | compact => exact endsNumeral_cons h
  | indented => exact endsNumeral_cons (by decide)

/-! ## First characters -/

theorem exists_cons_numeral (n : Numeral) : ∃ c cs, n.render ['+'] = c :: cs ∧
    (c = '-' ∨ ∃ d, c = Numeral.digitChar d) := by
  unfold Numeral.render
  cases n.negative with
  | true => exact ⟨'-', _, rfl, .inl rfl⟩
  | false =>
    obtain ⟨ds, hdigits, -, hne, -, -⟩ := exists_digits n.whole
    obtain ⟨d, ds, rfl⟩ := List.exists_cons_of_ne_nil hne
    rw [hdigits]
    exact ⟨_, _, rfl, .inr ⟨d, rfl⟩⟩

theorem exists_cons_quote (text : Option String) : ∃ cs, quote text = '"' :: cs := by
  obtain ⟨cs, h, -⟩ := exists_text?_quote text
  exact ⟨cs, h⟩

/-- A document starts neither with a blank nor with a closing bracket. -/
theorem exists_cons_render (style : Style) (depth : Nat) (j : Json) :
    ∃ c cs, j.render style depth = c :: cs ∧ isBlank c = false ∧ c ≠ ']' := by
  cases j with
  | null => exact ⟨_, _, rfl, rfl, by decide⟩
  | bool b => cases b <;> exact ⟨_, _, rfl, rfl, by decide⟩
  | number n =>
    obtain ⟨c, cs, hn, rfl | ⟨d, rfl⟩⟩ := exists_cons_numeral n
    · exact ⟨'-', cs, by rw [render, hn], rfl, by decide⟩
    · exact ⟨_, cs, by rw [render, hn], isBlank_digitChar d, digitChar_ne d rfl⟩
  | string s =>
    obtain ⟨cs, hs⟩ := exists_cons_quote s
    exact ⟨'"', cs, by rw [render, hs], rfl, by decide⟩
  | array items =>
    match items with
    | [] => exact ⟨'[', [']'], by rw [render], rfl, by decide⟩
    | _ :: _ => exact ⟨'[', _, by rw [render]; rfl, rfl, by decide⟩
  | object members =>
    match members with
    | [] => exact ⟨'\x7b', ['\x7d'], by rw [render], rfl, by decide⟩
    | (_, _) :: _ => exact ⟨'\x7b', _, by rw [render]; rfl, rfl, by decide⟩

theorem skipBlanks_render (style : Style) (depth : Nat) (j : Json) (rest : Source) :
    skipBlanks (spell (j.render style depth) ++ rest) = spell (j.render style depth) ++ rest := by
  obtain ⟨c, cs, hrender, hblank, -⟩ := exists_cons_render style depth j
  rw [hrender, spell_cons, List.cons_append, skipBlanks_cons hblank]

theorem skipBlanks_quote (text : Option String) (rest : Source) :
    skipBlanks (spell (quote text) ++ rest) = spell (quote text) ++ rest := by
  obtain ⟨cs, hquote⟩ := exists_cons_quote text
  rw [hquote, spell_cons, List.cons_append, skipBlanks_cons (by decide)]

/-! ## Documents -/

theorem value?_number {n : Numeral} {fuel : Nat} {s rest : Source}
    (hs : skipBlanks s = spell (n.render ['+']) ++ rest) (hrest : EndsNumeral rest) :
    value? (fuel + 1) s = some (.number n, rest) := by
  have hread := numeral?_spell n hrest
  obtain ⟨c, cs, hn, hc⟩ := exists_cons_numeral n
  rw [hn] at hs hread
  have hne {c' : Char} (hdigit : Numeral.digit? c' = none) (hminus : c' ≠ '-') : c ≠ c' := by
    rcases hc with rfl | ⟨d, rfl⟩
    · exact hminus.symm
    · exact digitChar_ne d hdigit
  unfold value?
  rw [hs]
  simp only [spell_cons, List.cons_append] at hread ⊢
  -- The first character of a numeral chooses the last case.
  split
  case h_7 =>
    rw [hread]
    rfl
  all_goals
    rename_i heq
    cases heq
    exact absurd rfl (hne rfl (by decide))

theorem value?_string {text : Option String} {fuel : Nat} {s rest : Source}
    (hs : skipBlanks s = spell (quote text) ++ rest) :
    value? (fuel + 1) s = some (.string text, rest) := by
  obtain ⟨cs, hquote, hread⟩ := exists_text?_quote text
  unfold value?
  rw [hs, hquote]
  simp only [spell_cons, List.cons_append, hread]
  rfl

/-- What comes after an item ends it. -/
theorem endsNumeral_items (style : Style) (depth outer : Nat) (items : List Json) (rest : Source) :
    EndsNumeral (spell (renderItems style depth items)
      ++ (spell (style.gap outer) ++ (some ']' :: rest))) := by
  cases items with
  | nil => exact endsNumeral_gap style outer rest (by decide)
  | cons item items => exact endsNumeral_cons (by decide)

theorem endsNumeral_members (style : Style) (depth outer : Nat)
    (members : List (Option String × Json)) (rest : Source) :
    EndsNumeral (spell (renderMembers style depth members)
      ++ (spell (style.gap outer) ++ (some '\x7d' :: rest))) := by
  match members with
  | [] => exact endsNumeral_gap style outer rest (by decide)
  | (_, _) :: _ => exact endsNumeral_cons (by decide)

theorem value?_array {style : Style} {depth fuel : Nat} {item : Json} {items : List Json}
    {s inner rest : Source}
    (hs : skipBlanks s
      = some '[' :: (spell (style.gap depth) ++ (spell (item.render style depth) ++ inner)))
    (hitems : items? fuel (spell (item.render style depth) ++ inner) = some (items, rest)) :
    value? (fuel + 1) s = some (.array items, rest) := by
  obtain ⟨c, cs, hitem, -, hc⟩ := exists_cons_render style depth item
  unfold value?
  rw [hs]
  simp only [skipBlanks_gap, skipBlanks_render]
  rw [hitem] at hitems ⊢
  simp only [spell_cons, List.cons_append] at hitems ⊢
  split
  -- An item does not start like the end of an empty list.
  · rename_i heq
    cases heq
    exact absurd rfl hc
  · rw [hitems]
    rfl

theorem value?_object {style : Style} {depth fuel : Nat} {key : Option String}
    {members : List (Option String × Json)} {s inner rest : Source}
    (hs : skipBlanks s = some '\x7b' :: (spell (style.gap depth) ++ (spell (quote key) ++ inner)))
    (hmembers : members? fuel (spell (quote key) ++ inner) = some (members, rest)) :
    value? (fuel + 1) s = some (.object members, rest) := by
  obtain ⟨cs, hkey⟩ := exists_cons_quote key
  unfold value?
  rw [hs]
  rw [hkey] at hmembers ⊢
  simp only [spell_cons, List.cons_append] at hmembers ⊢
  simp only [skipBlanks_gap, skipBlanks_cons (show isBlank '"' = false by decide)]
  split
  · rename_i heq
    cases heq
  · rw [hmembers]
    rfl

-- The three readers call one another with a unit of fuel less, so the induction is on the
-- fuel; the text is never longer than what is left of it.
mutual

theorem value?_render (style : Style) (j : Json) (depth fuel : Nat) {s rest : Source}
    (hfuel : (j.render style depth).length < fuel)
    (hs : skipBlanks s = spell (j.render style depth) ++ rest) (hrest : EndsNumeral rest) :
    value? fuel s = some (j, rest) := by
  obtain ⟨fuel, rfl⟩ := Nat.exists_eq_add_one.2 (Nat.zero_lt_of_lt hfuel)
  match j with
  | .null =>
    unfold value?
    rw [hs]
    rfl
  | .bool true =>
    unfold value?
    rw [hs]
    rfl
  | .bool false =>
    unfold value?
    rw [hs]
    rfl
  | .number n => exact value?_number (by rw [hs, render]) hrest
  | .string text => exact value?_string (by rw [hs, render])
  | .array [] =>
    unfold value?
    rw [hs]
    rfl
  | .array (item :: items) =>
    -- The readers see a list that is nested to the right.
    have hrender : (Json.array (item :: items)).render style depth
        = '[' :: style.gap (depth + 1) ++ item.render style (depth + 1)
          ++ renderItems style (depth + 1) items ++ style.gap depth ++ [']'] := by rw [render]
    have hopen : skipBlanks s = some '[' :: (spell (style.gap (depth + 1))
        ++ (spell (item.render style (depth + 1)) ++ (spell (renderItems style (depth + 1) items)
          ++ (spell (style.gap depth) ++ (some ']' :: rest))))) := by
      rw [hs, hrender]
      simp
    have hlength : (item.render style (depth + 1)
        ++ renderItems style (depth + 1) items).length + 1 < fuel := by
      simp [hrender] at hfuel ⊢
      omega
    exact value?_array hopen
      (items?_render style item items (depth + 1) depth fuel hlength (skipBlanks_render _ _ item _))
  | .object [] =>
    unfold value?
    rw [hs]
    rfl
  | .object ((key, value) :: members) =>
    have hrender : (Json.object ((key, value) :: members)).render style depth
        = '\x7b' :: style.gap (depth + 1) ++ quote key ++ style.colon
          ++ value.render style (depth + 1) ++ renderMembers style (depth + 1) members
          ++ style.gap depth ++ ['\x7d'] := by rw [render]
    have hopen : skipBlanks s = some '\x7b' :: (spell (style.gap (depth + 1))
        ++ (spell (quote key) ++ (spell style.colon ++ (spell (value.render style (depth + 1))
          ++ (spell (renderMembers style (depth + 1) members)
            ++ (spell (style.gap depth) ++ (some '\x7d' :: rest))))))) := by
      rw [hs, hrender]
      simp
    have hlength : (value.render style (depth + 1)
        ++ renderMembers style (depth + 1) members).length + 1 < fuel := by
      simp [hrender] at hfuel ⊢
      omega
    exact value?_object hopen
      (members?_render style key value members (depth + 1) depth fuel hlength (skipBlanks_quote key _))
termination_by fuel

theorem items?_render (style : Style) (item : Json) (items : List Json) (depth outer fuel : Nat)
    {s rest : Source}
    (hfuel : (item.render style depth ++ renderItems style depth items).length + 1 < fuel)
    (hs : skipBlanks s = spell (item.render style depth) ++ (spell (renderItems style depth items)
      ++ (spell (style.gap outer) ++ (some ']' :: rest)))) :
    items? fuel s = some (item :: items, rest) := by
  obtain ⟨fuel, rfl⟩ := Nat.exists_eq_add_one.2 (Nat.zero_lt_of_lt hfuel)
  rw [List.length_append] at hfuel
  have hitem := value?_render style item depth fuel (by omega) hs
    (endsNumeral_items style depth outer items rest)
  unfold items?
  rw [hitem]
  match items with
  | [] =>
    simp [renderItems, skipBlanks_cons (show isBlank ']' = false by decide)]
  | item' :: items =>
    have hrender : renderItems style depth (item' :: items)
        = ',' :: style.gap depth ++ item'.render style depth ++ renderItems style depth items := by
      rw [renderItems]
    rw [hrender] at hfuel ⊢
    have hlength : (item'.render style depth ++ renderItems style depth items).length + 1 < fuel := by
      simp at hfuel ⊢
      omega
    have hitems : items? fuel (spell (style.gap depth) ++ (spell (item'.render style depth)
        ++ (spell (renderItems style depth items) ++ (spell (style.gap outer) ++ (some ']' :: rest)))))
        = some (item' :: items, rest) :=
      items?_render style item' items depth outer fuel hlength
        (by rw [skipBlanks_gap, skipBlanks_render])
    simp [skipBlanks_cons (show isBlank ',' = false by decide), hitems]
termination_by fuel

theorem members?_render (style : Style) (key : Option String) (value : Json)
    (members : List (Option String × Json)) (depth outer fuel : Nat) {s rest : Source}
    (hfuel : (value.render style depth ++ renderMembers style depth members).length + 1 < fuel)
    (hs : skipBlanks s = spell (quote key) ++ (spell style.colon ++ (spell (value.render style depth)
      ++ (spell (renderMembers style depth members)
        ++ (spell (style.gap outer) ++ (some '\x7d' :: rest)))))) :
    members? fuel s = some ((key, value) :: members, rest) := by
  obtain ⟨fuel, rfl⟩ := Nat.exists_eq_add_one.2 (Nat.zero_lt_of_lt hfuel)
  rw [List.length_append] at hfuel
  have hvalue {s' : Source} (hs' : skipBlanks s' = spell (value.render style depth)
      ++ (spell (renderMembers style depth members)
        ++ (spell (style.gap outer) ++ (some '\x7d' :: rest)))) :=
    value?_render style value depth fuel (by omega) hs'
      (endsNumeral_members style depth outer members rest)
  obtain ⟨cs, hquote, hkey⟩ := exists_text?_quote key
  obtain ⟨blanks, hcolon, hblanks⟩ := exists_colon style
  unfold members?
  rw [hs, hquote, hcolon]
  simp only [spell_cons, List.cons_append, hkey, Option.bind_eq_bind, Option.bind_some,
    skipBlanks_cons (show isBlank ':' = false by decide), dropWord?, if_true]
  rw [hvalue (by rw [hblanks, skipBlanks_render])]
  match members with
  | [] =>
    simp [renderMembers, skipBlanks_cons (show isBlank '\x7d' = false by decide)]
  | (key', value') :: members =>
    have hrender : renderMembers style depth ((key', value') :: members)
        = ',' :: style.gap depth ++ quote key' ++ style.colon ++ value'.render style depth
          ++ renderMembers style depth members := by
      rw [renderMembers]
    rw [hrender] at hfuel ⊢
    have hlength : (value'.render style depth
        ++ renderMembers style depth members).length + 1 < fuel := by
      simp at hfuel ⊢
      omega
    have hmembers : members? fuel (spell (style.gap depth) ++ (spell (quote key')
        ++ (spell style.colon ++ (spell (value'.render style depth)
          ++ (spell (renderMembers style depth members)
            ++ (spell (style.gap outer) ++ (some '\x7d' :: rest)))))))
        = some ((key', value') :: members, rest) :=
      members?_render style key' value' members depth outer fuel hlength
        (by rw [skipBlanks_gap, skipBlanks_quote])
    simp [skipBlanks_cons (show isBlank ',' = false by decide), hmembers]
termination_by fuel

end

/-- Every document is read back from its text. -/
theorem parse?_render (style : Style) (j : Json) :
    parse? (String.ofList (j.render style 0)) = some j := by
  have hread : value? ((spell (j.render style 0)).length + 1) (spell (j.render style 0))
      = some (j, []) :=
    value?_render style j 0 _ (by simp) (by simpa using skipBlanks_render style 0 j [])
      endsNumeral_nil
  unfold parse? Source.ofText Source.document?
  rw [String.toList_ofList]
  change (value? ((spell (j.render style 0)).length + 1) (spell (j.render style 0))).bind
    (fun read => guard (skipBlanks read.2 = []) >>= fun _ => some read.1) = some j
  rw [hread]
  rfl

@[simp] theorem parse?_compact (j : Json) : parse? j.compact = some j := parse?_render .compact j

end Statescope.Json

/-- What a decoder makes of a compact text is what it makes of the document. -/
@[simp] theorem Statescope.Decoder.readText?_compact (d : Decoder α) (j : Json) :
    d.readText? j.compact = d depthLimit j := by
  have hread : (Json.Source.ofText j.compact).document? = some j := Json.parse?_compact j
  rw [readText?, read?, hread]
  rfl
