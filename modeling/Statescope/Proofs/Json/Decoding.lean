-- SUMMARY: Which values a decoder reads back from what is written for them, for scalars, lists, dictionaries and records.
import Mathlib
import Statescope.Json.Decoder
import Statescope.Json.Printer
import Statescope.Proofs.Json.RoundTrip
import Statescope.Proofs.Number.Numeral
import Statescope.Proofs.Pointwise

/-!
# Writing and reading back

`Decoder.RoundTrips` ties a decoder to a writer: it reads back whatever fits, and what
it reads fits. The relation is kept by lists and dictionaries and holds for the
scalars. `Decoder.Faithful` is what follows for texts, and `Decoder.PartlyFaithful`
says the same of a writer that refuses some values.
-/

namespace Statescope

/-- The text of a value in one of the styles of writing. -/
def Json.written (write : α → Json) (style : Json.Style) (v : α) : String :=
  String.ofList ((write v).render style 0)

/-- The text of a value in one of the styles of writing, if the value has a document. -/
def Json.written? (write? : α → Option Json) (style : Json.Style) (v : α) : Option String :=
  (write? v).map (Json.written id style)

@[simp] theorem Json.parse?_written (write : α → Json) (style : Json.Style) (v : α) :
    Json.parse? (Json.written write style v) = some (write v) :=
  Json.parse?_render style (write v)

namespace Decoder

/-- The decoder reads back what is written for values that fit, provided that at least
`least` arrays and objects may be opened, and whatever it reads fits. How many may be
opened is part of what fits, for the sake of free-form data. -/
structure RoundTrips (write : α → Json) (d : Decoder α) (Fits : Nat → α → Prop) (least : Nat) :
    Prop where
  reads : ∀ {depth v}, least ≤ depth → Fits depth v → d depth (write v) = some v
  fits : ∀ {depth j v}, d depth j = some v → Fits depth v

/-- Values are read back from their texts, and whatever is read from any text at all can
be written and read back, which leads to the same text again. -/
structure Faithful (write : α → Json) (d : Decoder α) (Fits : α → Prop) : Prop where
  read_written : ∀ v style, Fits v → d.readText? (Json.written write style v) = some v
  read_rewritten : ∀ s v style, d.readText? s = some v →
    d.readText? (Json.written write style v) = some v
  rewritten_eq : ∀ s v v' style, d.readText? s = some v →
    d.readText? (Json.written write style v) = some v' →
    Json.written write style v' = Json.written write style v

/-- Like `Faithful`, for a writer that refuses some values: exactly the others have texts,
and only they are ever read. -/
structure PartlyFaithful (write? : α → Option Json) (d : Decoder α) (Fits Writable : α → Prop) :
    Prop where
  isSome_written : ∀ v style, (Json.written? write? style v).isSome = true ↔ Writable v
  read_written : ∀ v style s, Fits v → Json.written? write? style v = some s →
    d.readText? s = some v
  read_rewritten : ∀ s v style, d.readText? s = some v →
    ∃ s', Json.written? write? style v = some s' ∧ d.readText? s' = some v
  rewritten_eq : ∀ s v v' style s', d.readText? s = some v →
    Json.written? write? style v = some s' → d.readText? s' = some v' →
    Json.written? write? style v' = some s'

/-- What a decoder makes of a written text is what it makes of the document. -/
@[simp] theorem readText?_written (d : Decoder α) (write : β → Json) (style : Json.Style) (v : β) :
    d.readText? (Json.written write style v) = d depthLimit (write v) := by
  have hread : (Json.Source.ofText (Json.written write style v)).document? = some (write v) :=
    Json.parse?_written write style v
  rw [readText?, read?, hread]
  rfl

theorem exists_of_readText? {d : Decoder α} {s : String} {v : α} (h : d.readText? s = some v) :
    ∃ j, d depthLimit j = some v := by
  rw [readText?, read?, Option.bind_eq_bind, Option.bind_eq_some_iff] at h
  obtain ⟨j, -, hj⟩ := h
  exact ⟨j, hj⟩

theorem RoundTrips.faithful {write : α → Json} {d : Decoder α} {Fits : Nat → α → Prop}
    {least : Nat} (h : RoundTrips write d Fits least) (hleast : least ≤ depthLimit) :
    Faithful write d (Fits depthLimit) := by
  have hread (v : α) (style : Json.Style) (hv : Fits depthLimit v) :
      d.readText? (Json.written write style v) = some v := by
    rw [readText?_written]
    exact h.reads hleast hv
  have hfits {s : String} {v : α} (hs : d.readText? s = some v) : Fits depthLimit v := by
    obtain ⟨j, hj⟩ := exists_of_readText? hs
    exact h.fits hj
  refine ⟨hread, fun s v style hs => hread v style (hfits hs), ?_⟩
  intro s v v' style hs hs'
  rw [hread v style (hfits hs)] at hs'
  cases hs'
  rfl

theorem PartlyFaithful.of_reads {write? : α → Option Json} {d : Decoder α} {Fits Writable : α → Prop}
    (hwrite : ∀ v, (write? v).isSome = true ↔ Writable v)
    (hreads : ∀ {v j}, Fits v → write? v = some j → d depthLimit j = some v)
    (hfits : ∀ {j v}, d depthLimit j = some v → Fits v ∧ Writable v) :
    PartlyFaithful write? d Fits Writable := by
  have hread {v : α} {style : Json.Style} {s : String} (hv : Fits v)
      (hs : Json.written? write? style v = some s) : d.readText? s = some v := by
    obtain ⟨j, hj, rfl⟩ := Option.map_eq_some_iff.1 hs
    rw [readText?_written]
    exact hreads hv hj
  refine ⟨fun v style => ?_, fun v style s => hread, fun s v style hs => ?_, ?_⟩
  · rw [Json.written?, Option.isSome_map]
    exact hwrite v
  · obtain ⟨j, hj⟩ := exists_of_readText? hs
    obtain ⟨hv, hwritable⟩ := hfits hj
    obtain ⟨j', hj'⟩ := Option.isSome_iff_exists.1 ((hwrite v).2 hwritable)
    have hs' : Json.written? write? style v = some (Json.written id style j') := by
      rw [Json.written?, hj', Option.map_some]
    exact ⟨_, hs', hread hv hs'⟩
  · intro s v v' style s' hs hs' hv'
    obtain ⟨j, hj⟩ := exists_of_readText? hs
    rw [hread (hfits hj).1 hs'] at hv'
    cases hv'
    exact hs'

/-! ## Scalars -/

theorem roundTrips_text : RoundTrips Json.text text (fun _ _ => True) 0 :=
  ⟨fun _ _ => rfl, fun _ => trivial⟩

theorem roundTrips_float : RoundTrips Json.float float (fun _ x => Binary64.isFinite x) 0 where
  reads {depth x} _ hx := by
    obtain ⟨n, hwrite, hread, -⟩ := Numeral.exists_ofFloat? Json.floatStyle (by decide) hx
    rw [Json.float, hwrite]
    exact hread
  fits {depth j x} hread := by
    unfold float at hread
    split at hread
    · exact Numeral.isFinite_of_toFloat? hread
    · cases hread

theorem natural_integer (depth : Nat) {bound n : Nat} (h : n < bound) :
    natural bound depth (.integer n) = some n := by
  have hsign : (Numeral.ofInt n).negative = false := by
    rw [Numeral.ofInt, decide_eq_false_iff_not]
    omega
  simp [natural, Json.integer, hsign, h, guard]

theorem lt_of_natural {bound depth n : Nat} {j : Json} (h : natural bound depth j = some n) :
    n < bound := by
  unfold natural at h
  split at h
  · simp only [Option.bind_eq_bind, Option.bind_eq_some_iff, Option.guard_eq_some'] at h
    obtain ⟨-, -, i, -, -, hlt, hn⟩ := h
    cases hn
    exact hlt
  · cases h

/-! ## Lists and dictionaries -/

theorem mapM_map_eq_some {f : β → Option α} {g : α → β} {as : List α}
    (h : ∀ a ∈ as, f (g a) = some a) : (as.map g).mapM f = some as := by
  rw [List.mapM_map]
  induction as with
  | nil => rfl
  | cons a as ih =>
    rw [List.forall_mem_cons] at h
    simp [h.1, ih h.2]

theorem forall₂_of_mapM {f : β → Option α} {bs : List β} {as : List α} (h : bs.mapM f = some as) :
    List.Forall₂ (fun b a => f b = some a) bs as := by
  induction bs generalizing as with
  | nil =>
    cases h
    exact .nil
  | cons b bs ih =>
    rw [List.mapM_cons] at h
    simp only [Option.bind_eq_bind, Option.bind_eq_some_iff] at h
    obtain ⟨a, hb, as', hbs, has⟩ := h
    cases has
    exact .cons hb (ih hbs)

theorem exists_of_mem_mapM {f : β → Option α} {bs : List β} {as : List α}
    (h : bs.mapM f = some as) {a : α} (ha : a ∈ as) : ∃ b ∈ bs, f b = some a :=
  exists_left_of_mem (forall₂_of_mapM h) ha

theorem exists_of_mapM {f : β → Option α} {bs : List β} {as : List α} (h : bs.mapM f = some as)
    {b : β} (hb : b ∈ bs) : ∃ a, f b = some a := by
  obtain ⟨a, -, ha⟩ := exists_right_of_mem (forall₂_of_mapM h) hb
  exact ⟨a, ha⟩

/-- A list is refused for one of its items. -/
theorem exists_of_mapM_eq_none {f : β → Option α} {bs : List β} (h : bs.mapM f = none) :
    ∃ b ∈ bs, f b = none := by
  induction bs with
  | nil => cases h
  | cons b bs ih =>
    cases hb : f b with
    | none => exact ⟨b, List.mem_cons_self, hb⟩
    | some a =>
      have hrest : bs.mapM f = none := by
        cases hbs : bs.mapM f with
        | none => rfl
        | some as => simp [List.mapM_cons, hb, hbs] at h
      obtain ⟨b', hmem, hb'⟩ := ih hrest
      exact ⟨b', List.mem_cons_of_mem _ hmem, hb'⟩

variable {write : α → Json} {d : Decoder α} {Fits : Nat → α → Prop} {least : Nat}

theorem RoundTrips.list (h : RoundTrips write d Fits least) :
    RoundTrips (fun as => .array (as.map write)) (list d)
      (fun depth as => ∀ a ∈ as, Fits (depth - 1) a) (least + 1) where
  reads {depth as} hdepth has := by
    obtain ⟨depth, rfl⟩ := Nat.exists_eq_add_one.2 (Nat.zero_lt_of_lt hdepth)
    exact mapM_map_eq_some fun a ha => h.reads (Nat.le_of_succ_le_succ hdepth) (has a ha)
  fits {depth j as} hread a ha := by
    unfold Decoder.list at hread
    split at hread
    · obtain ⟨j, -, hj⟩ := exists_of_mem_mapM hread ha
      exact h.fits hj
    · cases hread

theorem members_record {depth : Nat} {ms : List (String × α)}
    (h : ∀ p ∈ ms, d depth (write p.2) = some p.2) :
    members d (depth + 1) (.record (ms.map fun (key, v) => (key, write v))) = some ms := by
  rw [Json.record, List.map_map]
  apply mapM_map_eq_some
  rintro ⟨key, v⟩ hp
  simp [h _ hp]

theorem RoundTrips.dict (h : RoundTrips write d Fits least) :
    RoundTrips (Json.dict write) (dict d)
      (fun depth (m : Dict α) => ∀ (key : String) v, m[key]? = some v → Fits (depth - 1) v) (least + 1) where
  reads {depth m} hdepth hm := by
    obtain ⟨depth, rfl⟩ := Nat.exists_eq_add_one.2 (Nat.zero_lt_of_lt hdepth)
    have hread : members d (depth + 1) (Json.dict write m) = some m.toList := by
      apply members_record
      rintro ⟨key, v⟩ hp
      exact h.reads (Nat.le_of_succ_le_succ hdepth)
        (hm key v (Std.ExtTreeMap.mem_toList_iff_getElem?_eq_some.1 hp))
    rw [Decoder.dict, hread, Option.map_some, Dict.ofPairs_toList]
  fits {depth j m} hread key v hv := by
    simp only [Decoder.dict, Option.map_eq_some_iff] at hread
    obtain ⟨ps, hps, rfl⟩ := hread
    have hmem := Dict.mem_of_getElem?_ofPairs hv
    unfold members at hps
    split at hps
    · obtain ⟨⟨key', j⟩, -, hj⟩ := exists_of_mem_mapM hps hmem
      simp only [Option.bind_eq_bind, Option.bind_eq_some_iff] at hj
      obtain ⟨key'', -, v', hv', heq⟩ := hj
      cases heq
      exact h.fits hv'
    · cases hps

/-! ## Records -/

theorem lookup_map_some (ms : List (String × Json)) (name : String) :
    (ms.map fun (key, j) => (some key, j)).lookup (some name) = ms.lookup name := by
  induction ms with
  | nil => rfl
  | cons m ms ih =>
    obtain ⟨key, j⟩ := m
    simp only [List.map_cons, List.lookup_cons, ih]
    rfl

/-- A record of some of its fields, each written once and in order, is read by looking
up its members. -/
theorem record_record {names : List String} (build : Fields → Option α) (depth : Nat)
    {ms : List (String × Json)} (hms : (ms.map Prod.fst).Sublist names) (hnames : names.Nodup) :
    record names build (depth + 1) (.record ms) = build ⟨depth, fun name => ms.lookup name⟩ := by
  have hkeyed : wellKeyed names (ms.map fun (key, j) => (some key, j)) = true := by
    rw [wellKeyed, Bool.and_eq_true]
    refine ⟨by simp, ?_⟩
    rw [List.all_eq_true]
    intro name _
    rw [decide_eq_true_eq, ← List.countP_eq_length_filter, List.countP_map]
    have hcount : (ms.map Prod.fst).count name ≤ 1 :=
      List.nodup_iff_count_le_one.1 (hnames.sublist hms) name
    rw [List.count_eq_countP, List.countP_map] at hcount
    refine le_trans (le_of_eq ?_) hcount
    congr 1
    funext e
    rw [Bool.eq_iff_iff]
    simp
  have hmember : member? (ms.map fun (key, j) => (some key, j)) = fun name => ms.lookup name := by
    funext name
    exact lookup_map_some ms name
  rw [Json.record, record, if_pos hkeyed, hmember]

theorem optional_sublist (key : String) (encode : β → Json) (o : Option β) :
    ((Json.optional key encode o).map Prod.fst).Sublist [key] := by
  cases o with
  | none => exact List.nil_sublist _
  | some v => exact List.Sublist.refl _

theorem lookup_optional (key name : String) (encode : β → Json) (o : Option β) :
    (Json.optional key encode o).lookup name = if name = key then o.map encode else none := by
  cases o with
  | none => simp [Json.optional]
  | some v =>
    rw [Json.optional, List.lookup_cons, List.lookup_nil]
    by_cases h : name = key
    · rw [beq_iff_eq.2 h, if_pos h, Option.map_some]
    · rw [beq_eq_false_iff_ne.2 h, if_neg h]

theorem required_eq_some {f : Fields} {name : String} {v : β} {d : Decoder β} (j : Json)
    (hfind : f.find? name = some j) (hread : d f.depth j = some v) : f.required name d = some v := by
  rw [Fields.required, hfind]
  exact hread

theorem default_eq_some {f : Fields} {name : String} {v v' : β} {d : Decoder β} (j : Json)
    (hfind : f.find? name = some j) (hread : d f.depth j = some v) :
    f.default name d v' = some v := by
  rw [Fields.default, hfind]
  exact hread

/-- A field that may be missing is read back if nothing is written as `null`. -/
theorem optional_eq_some {f : Fields} {name : String} (encode : β → Json) {o : Option β}
    {d : Decoder β} (hfind : f.find? name = o.map encode) (hnull : ∀ v, encode v ≠ .null)
    (hread : ∀ v, o = some v → d f.depth (encode v) = some v) :
    f.optional name d = some o := by
  rw [Fields.optional, Fields.default, hfind]
  cases o with
  | none => rfl
  | some v =>
    have hnullable : nullable d f.depth (encode v) = (d f.depth (encode v)).map some := by
      unfold nullable
      split
      · exact absurd ‹_› (hnull v)
      · rfl
    simp [hnullable, hread v rfl]

/-- What is read as a record is built from its fields. -/
theorem exists_of_record {names : List String} {build : Fields → Option α} {depth : Nat} {j : Json}
    {v : α} (h : record names build depth j = some v) :
    ∃ f : Fields, f.depth + 1 = depth ∧ build f = some v := by
  unfold record at h
  split at h
  · split at h
    · exact ⟨_, rfl, h⟩
    · cases h
  · split at h
    · exact ⟨_, rfl, h⟩
    · cases h
  · cases h

theorem RoundTrips.fits_of_required (h : RoundTrips write d Fits least) {f : Fields}
    {name : String} {v : α} (hread : f.required name d = some v) : Fits f.depth v := by
  rw [Fields.required, Option.bind_eq_bind, Option.bind_eq_some_iff] at hread
  obtain ⟨j, -, hj⟩ := hread
  exact h.fits hj

theorem RoundTrips.fits_of_default (h : RoundTrips write d Fits least) {f : Fields}
    {name : String} {v v' : α} (hread : f.default name d v' = some v) (hv : Fits f.depth v') :
    Fits f.depth v := by
  unfold Fields.default at hread
  split at hread
  · cases hread
    exact hv
  · exact h.fits hread

theorem RoundTrips.fits_of_optional (h : RoundTrips write d Fits least) {f : Fields}
    {name : String} {v : α} (hread : f.optional name d = some (some v)) : Fits f.depth v := by
  unfold Fields.optional Fields.default nullable at hread
  split at hread
  · cases hread
  · split at hread
    · cases hread
    · rw [Option.map_eq_some_iff] at hread
      obtain ⟨v', hv', heq⟩ := hread
      cases heq
      exact h.fits hv'

end Decoder

end Statescope
