-- SUMMARY: The algebra of the rolling hash, and its eight digits, which tell any two hashes apart.
import Mathlib
import Statescope.Graph.Fingerprint

/-!
# Hashes and their digits

The hash of a text is the value of a polynomial at 31, modulo `2 ^ 32`; its coefficients are
the code units. Since 31 is odd, powers of it can be cancelled: what stands before and behind
two texts of the same length does not matter to whether they have the same hash.
-/

namespace Statescope.Fingerprint

/-! ## Code units -/

/-- The UTF-16 code units of a text. -/
def units (text : List Char) : List UInt32 := text.flatMap codeUnits

@[simp] theorem units_append (a b : List Char) : units (a ++ b) = units a ++ units b :=
  List.flatMap_append

/-- A list of code units spells a character: it is one unit that is no surrogate, or a high
and a low surrogate that carry ten bits each. -/
inductive Spells (c : Char) : List UInt32 → Prop where
  | single {u : UInt32} (hunit : u.toNat < 0xD800 ∨ 0xE000 ≤ u.toNat ∧ u.toNat < 0x10000)
      (hchar : c.toNat = u.toNat) : Spells c [u]
  | pair {high low : UInt32} (hhigh : 0xD800 ≤ high.toNat ∧ high.toNat < 0xDC00)
      (hlow : 0xDC00 ≤ low.toNat ∧ low.toNat < 0xE000)
      (hchar : c.toNat = 0x10000 + (high.toNat - 0xD800) * 0x400 + (low.toNat - 0xDC00)) :
      Spells c [high, low]

theorem spells_codeUnits (c : Char) : Spells c (codeUnits c) := by
  have hvalid : c.val.toNat < 0xD800 ∨ 0xDFFF < c.val.toNat ∧ c.val.toNat < 0x110000 := c.valid
  unfold codeUnits
  split
  · rename_i hbasic
    rw [UInt32.lt_iff_toNat_lt] at hbasic
    refine .single ?_ rfl
    change c.val.toNat < 0x10000 at hbasic
    omega
  · rename_i hbasic
    rw [UInt32.lt_iff_toNat_lt] at hbasic
    change ¬ c.val.toNat < 0x10000 at hbasic
    have hsub : (c.val - 0x10000).toNat = c.val.toNat - 0x10000 :=
      UInt32.toNat_sub_of_le _ _ (by rw [UInt32.le_iff_toNat_le]; exact Nat.le_of_not_lt hbasic)
    have hhigh : (0xD800 + (c.val - 0x10000) / 0x400).toNat
        = 0xD800 + (c.val.toNat - 0x10000) / 0x400 := by
      rw [UInt32.toNat_add, UInt32.toNat_div, hsub]
      change (0xD800 + (c.val.toNat - 0x10000) / 0x400) % 2 ^ 32 = _
      omega
    have hlow : (0xDC00 + (c.val - 0x10000) % 0x400).toNat
        = 0xDC00 + (c.val.toNat - 0x10000) % 0x400 := by
      rw [UInt32.toNat_add, UInt32.toNat_mod, hsub]
      change (0xDC00 + (c.val.toNat - 0x10000) % 0x400) % 2 ^ 32 = _
      omega
    refine .pair ?_ ?_ ?_
    · rw [hhigh]
      omega
    · rw [hlow]
      omega
    · rw [hhigh, hlow, ← Char.toNat_val]
      omega

/-! ## The polynomial -/

/-- The hash of a list of code units. -/
def hash (us : List UInt32) : UInt32 := us.foldl absorb 0

theorem rollingHash_eq (text : List Char) : rollingHash text = hash (units text) := rfl

/-- The polynomial with the code units for its coefficients, the first one for the highest
power, at 31. -/
def polynomial (us : List UInt32) : Nat :=
  ∑ i : Fin us.length, us[i].toNat * 31 ^ (us.length - 1 - i)

theorem polynomial_nil : polynomial [] = 0 := rfl

theorem polynomial_cons (u : UInt32) (us : List UInt32) :
    polynomial (u :: us) = u.toNat * 31 ^ us.length + polynomial us := by
  have hpower (i : Fin us.length) :
      (u :: us).length - 1 - (i.succ : Nat) = us.length - 1 - (i : Nat) := by
    rw [List.length_cons, Fin.val_succ]
    omega
  refine (Fin.sum_univ_succ _).trans (congrArg₂ _ rfl (Finset.sum_congr rfl fun i _ => ?_))
  rw [hpower i]
  rfl

/-- A hash that goes on over more units is shifted by their number. -/
theorem toNat_foldl_absorb (h : UInt32) (us : List UInt32) :
    (us.foldl absorb h).toNat = (h.toNat * 31 ^ us.length + polynomial us) % 2 ^ 32 := by
  induction us generalizing h with
  | nil =>
    rw [List.foldl_nil, polynomial_nil, List.length_nil, pow_zero, Nat.mul_one, Nat.add_zero]
    exact (Nat.mod_eq_of_lt h.toNat_lt).symm
  | cons u us ih =>
    have habsorb : (absorb h u).toNat ≡ h.toNat * 31 + u.toNat [MOD 2 ^ 32] := by
      rw [absorb, UInt32.toNat_add, UInt32.toNat_mul]
      exact (Nat.mod_modEq _ _).trans ((Nat.mod_modEq _ _).add_right _)
    rw [List.foldl_cons, ih, polynomial_cons, List.length_cons]
    have hstep := (habsorb.mul_right (31 ^ us.length)).add_right (polynomial us)
    refine hstep.trans (congrArg (· % 2 ^ 32) ?_)
    ring

theorem toNat_hash (us : List UInt32) : (hash us).toNat = polynomial us % 2 ^ 32 := by
  rw [hash, toNat_foldl_absorb, UInt32.toNat_zero, Nat.zero_mul, Nat.zero_add]

theorem toNat_hash_append (us vs : List UInt32) : (hash (us ++ vs)).toNat
    = ((hash us).toNat * 31 ^ vs.length + (hash vs).toNat) % 2 ^ 32 := by
  rw [hash, List.foldl_append, toNat_foldl_absorb, toNat_hash vs]
  exact (Nat.ModEq.add_left _ (Nat.mod_modEq _ _)).symm

/-! ## Cancelling -/

theorem hash_eq_iff {us vs : List UInt32} :
    hash us = hash vs ↔ (hash us).toNat ≡ (hash vs).toNat [MOD 2 ^ 32] := by
  rw [← UInt32.toNat_inj, Nat.ModEq, Nat.mod_eq_of_lt (hash us).toNat_lt,
    Nat.mod_eq_of_lt (hash vs).toNat_lt]

theorem hash_append_modEq (us vs : List UInt32) : (hash (us ++ vs)).toNat
    ≡ (hash us).toNat * 31 ^ vs.length + (hash vs).toNat [MOD 2 ^ 32] := by
  rw [toNat_hash_append]
  exact Nat.mod_modEq _ _

/-- What stands behind two lists does not tell their hashes apart, nor does it make them
alike. -/
theorem hash_append_right_iff (us vs after : List UInt32) :
    hash (us ++ after) = hash (vs ++ after) ↔ hash us = hash vs := by
  rw [hash_eq_iff, hash_eq_iff]
  constructor
  · intro h
    have hshifted := ((hash_append_modEq us after).symm.trans h).trans (hash_append_modEq vs after)
    have hcoprime : Nat.gcd (2 ^ 32) (31 ^ after.length) = 1 :=
      Nat.Coprime.pow 32 after.length (by decide)
    exact (hshifted.add_right_cancel' _).cancel_right_of_coprime hcoprime
  · intro h
    exact (hash_append_modEq us after).trans
      (((h.mul_right _).add_right _).trans (hash_append_modEq vs after).symm)

/-- What stands before two lists of the same length does not tell their hashes apart, nor does
it make them alike. -/
theorem hash_append_left_iff {us vs : List UInt32} (hlength : us.length = vs.length)
    (before : List UInt32) : hash (before ++ us) = hash (before ++ vs) ↔ hash us = hash vs := by
  rw [hash_eq_iff, hash_eq_iff]
  constructor
  · intro h
    have hshifted := ((hash_append_modEq before us).symm.trans h).trans (hash_append_modEq before vs)
    rw [hlength] at hshifted
    exact hshifted.add_left_cancel' _
  · intro h
    refine (hash_append_modEq before us).trans (.trans ?_ (hash_append_modEq before vs).symm)
    rw [hlength]
    exact h.add_left _

/-- The lists are equally long and differ at one place. -/
def DifferOnce (us vs : List UInt32) : Prop :=
  ∃ before u v after, us = before ++ u :: after ∧ vs = before ++ v :: after ∧ u ≠ v

theorem hash_singleton (u : UInt32) : hash [u] = u := by
  simp [hash, absorb]

theorem DifferOnce.hash_ne {us vs : List UInt32} (h : DifferOnce us vs) : hash us ≠ hash vs := by
  obtain ⟨before, u, v, after, rfl, rfl, hne⟩ := h
  intro heq
  have hlength : ([u] ++ after).length = ([v] ++ after).length := rfl
  have htail := (hash_append_left_iff hlength before).1 heq
  rw [hash_append_right_iff, hash_singleton, hash_singleton] at htail
  exact hne htail

/-! ## Digits -/

@[simp] theorem length_hexDigits (width n : Nat) : (hexDigits width n).length = width := by
  induction width generalizing n with
  | zero => rfl
  | succ width ih => rw [hexDigits, List.length_append, ih, List.length_singleton]

theorem mem_of_mem_hexDigits {c : Char} {width n : Nat} (h : c ∈ hexDigits width n) :
    c ∈ "0123456789abcdef".toList := by
  induction width generalizing n with
  | zero => cases h
  | succ width ih =>
    rw [hexDigits, List.mem_append, List.mem_singleton] at h
    rcases h with h | rfl
    · exact ih h
    · have hdigit : ∀ d < 16, Nat.digitChar d ∈ "0123456789abcdef".toList := by decide
      exact hdigit _ (Nat.mod_lt n (by decide))

theorem eq_of_digitChar_eq {m n : Nat} (hm : m < 16) (hn : n < 16)
    (h : Nat.digitChar m = Nat.digitChar n) : m = n := by
  have hdigits : ∀ m < 16, ∀ n < 16, Nat.digitChar m = Nat.digitChar n → m = n := by decide
  exact hdigits m hm n hn h

/-- The digits give the number back, as far as they reach. -/
theorem hexDigits_eq_iff {width m n : Nat} :
    hexDigits width m = hexDigits width n ↔ m % 16 ^ width = n % 16 ^ width := by
  induction width generalizing m n with
  | zero => simp [hexDigits, Nat.mod_one]
  | succ width ih =>
    have hdigits : hexDigits (width + 1) m = hexDigits (width + 1) n ↔
        m / 16 % 16 ^ width = n / 16 % 16 ^ width ∧ m % 16 = n % 16 := by
      rw [hexDigits, hexDigits, ← ih]
      constructor
      · intro h
        obtain ⟨hfront, hlast⟩ := List.append_inj' h rfl
        rw [List.singleton_inj] at hlast
        exact ⟨hfront, eq_of_digitChar_eq (Nat.mod_lt m (by decide)) (Nat.mod_lt n (by decide)) hlast⟩
      · rintro ⟨hfront, hlast⟩
        rw [hfront, hlast]
    rw [hdigits, pow_succ', Nat.mod_mul, Nat.mod_mul]
    omega

@[simp] theorem toList_ofElements (elements : List Element) : (ofElements elements).text.toList
    = hexDigits 8 (rollingHash (serialize elements).toList).toNat :=
  String.toList_ofList

/-- Fingerprints are as good as hashes. -/
theorem ofElements_eq_iff {as bs : List Element} : ofElements as = ofElements bs ↔
    rollingHash (serialize as).toList = rollingHash (serialize bs).toList := by
  constructor
  · intro h
    have hdigits := congrArg (fun fp : Fingerprint => fp.text.toList) h
    simp only [toList_ofElements, hexDigits_eq_iff] at hdigits
    rw [← UInt32.toNat_inj]
    have hbound := UInt32.toNat_lt (rollingHash (serialize as).toList)
    have hbound' := UInt32.toNat_lt (rollingHash (serialize bs).toList)
    omega
  · intro h
    rw [ofElements, ofElements, h]

/-- The key of a diagram is never the bare prefix of keys. -/
@[simp] theorem text_ofElements_ne_empty (elements : List Element) : (ofElements elements).text ≠ "" := by
  intro hempty
  have hlength := length_hexDigits 8 (rollingHash (serialize elements).toList).toNat
  rw [← toList_ofElements, hempty] at hlength
  exact absurd hlength (by decide)

end Statescope.Fingerprint
