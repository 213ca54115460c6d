-- SUMMARY: What an import writes: the layouts that the bundle brings, each under its key, and nothing else.
import Mathlib
import Statescope.Proofs.Store.Keeping
import Statescope.Proofs.Store.LayoutFrame
import Statescope.Proofs.Store.Members
import Statescope.Proofs.Store.Sound

/-!
# Imports that succeed

An import of a malformed bundle changes nothing. Any other one is refused by the store at most,
and if it is not, the store holds the layouts that the bundle brings and is otherwise as it was
(`import_effect`). To import the bundle once more makes no difference.
-/

namespace Statescope.LayoutStore

open LayoutBundle

variable [BlobStore σ] {s t : LayoutStore σ} {text : String} {fp : Fingerprint} {l : SavedLayout}
  {entries : List (Fingerprint × SavedLayout)}

/-! ## Answers -/

/-- The store saves all layouts of a bundle, if the bundle can be read. -/
def Accepts (s : LayoutStore σ) (text : String) : Prop :=
  ∀ entries, read? text = some entries → (s.saveAll entries).1 = .ok ()

/-- A store that saves whatever it is given accepts every bundle. -/
theorem accepts_of_saves
    (hsaves : ∀ (store : σ) (key : String) (blob : Blob), (BlobStore.save store key blob).1 = .ok ())
    (s : LayoutStore σ) (text : String) : s.Accepts text := by
  intro entries _
  cases hsave : s.saveAll entries with
  | mk result t =>
    cases result with
    | ok _ => rfl
    | error e =>
      obtain ⟨_, fp, l, _, stored, -, -, hrefused⟩ := exists_refused_of_saveAll hsave
      obtain ⟨_, -, hblob, -⟩ := save_eq_error hrefused
      have hsaved := hsaves stored.store fp.layoutKey l.toBlob
      rw [hblob] at hsaved
      cases hsaved

theorem accepts_memory (s : LayoutStore MemoryStore) (text : String) : s.Accepts text :=
  accepts_of_saves (fun _ _ _ => rfl) s text

theorem Accepts.exists_saveAll (h : s.Accepts text) (hread : read? text = some entries) :
    ∃ t, s.saveAll entries = (.ok (), t) :=
  ⟨(s.saveAll entries).2, Prod.ext (h entries hread) rfl⟩

theorem importText_of_malformed (h : Malformed text) (s : LayoutStore σ) :
    s.importText text = (.error (.malformed text), s) := by
  rw [importText, read?_of_malformed h]

theorem importText_of_saveAll (hread : read? text = some entries)
    (hsave : s.saveAll entries = (.ok (), t)) :
    s.importText text = (.ok (entries.map (·.1)), t) := by
  rw [importText, hread]
  simp only [hsave]
  rfl

/-! ## Contents -/

variable [FramedStore σ]

/-- What the store holds can be read. -/
def Readable (s : LayoutStore σ) : Prop :=
  ∀ key blob, s.blob? key = some blob → BlobStore.load s.store key = .ok blob

theorem readable_memory (s : LayoutStore MemoryStore) : s.Readable :=
  fun _ _ h => MemoryStore.load_of_some h

/-- A sound directory can be read, and an import leaves it sound. -/
theorem readable_directory {s : LayoutStore Directory} (h : s.store.Sound) : s.Readable :=
  fun _ _ hblob => h.load_eq hblob

theorem readable_importText_directory {s : LayoutStore Directory} (h : s.store.Sound) (text : String) :
    (s.importText text).2.Readable :=
  readable_directory (Directory.stable_sound.importText h text)

/-- Every layout that the bundle brings has been stored. -/
theorem blob?_of_saveAll (hread : read? text = some entries)
    (hsave : s.saveAll entries = (.ok (), t)) (hbrings : Brings text fp l) :
    t.blob? fp.layoutKey = some l.toBlob := by
  obtain ⟨_, -, -, hentries, -⟩ := exists_members_of_read? hread
  obtain ⟨l', hmem, hblob⟩ := blob?_saveAll_of_mem hsave ((hentries fp l).2 hbrings)
  rw [hblob, hbrings.unique ((hentries fp l').1 hmem)]

/-- What has been stored for a layout of a bundle is loaded again. -/
theorem load_of_brings (hbrings : Brings text fp l) (hblob : t.blob? fp.layoutKey = some l.toBlob)
    (hreads : t.Readable) : t.load fp = (some l, t) :=
  load_of_toBlob hbrings.isFinite (hreads _ _ hblob)

/-- Under the keys of other fingerprints, and all other keys, nothing is written. -/
theorem blob?_saveAll_of_not_mem {key : String} (hsave : s.saveAll entries = (.ok (), t))
    (hkey : ∀ fp ∈ entries.map (·.1), key ≠ fp.layoutKey) : t.blob? key = s.blob? key := by
  have hsaves := saves_saveAll entries s key
  rw [hsave] at hsaves
  rcases hsaves with hkept | ⟨fp, l, hmem, rfl, -⟩
  · exact hkept
  · exact absurd rfl (hkey fp (List.mem_map_of_mem hmem))

/-- A bundle whose layouts are stored already makes no difference. -/
theorem blob?_importText_of_stored
    (hstored : ∀ fp l, Brings text fp l → t.blob? fp.layoutKey = some l.toBlob) (key : String) :
    (t.importText text).2.blob? key = t.blob? key := by
  rcases exists_of_blob?_importText t text key with hkept | ⟨entries, fp, l, hread, hmem, rfl, hblob⟩
  · exact hkept
  · obtain ⟨_, -, -, hentries, -⟩ := exists_members_of_read? hread
    rw [hblob, hstored fp l ((hentries fp l).1 hmem)]

/-! ## Imports -/

/-- The import of a malformed bundle fails and changes nothing. Any other one that the store
does not refuse gives the fingerprints under whose keys the bundle has a value, each once and in the
order of the keys. For each of them the layout that the bundle brings is stored and, if what
is stored can be read, loaded. Under all other keys the store holds what it held before. To import
the bundle again changes nothing, and gives the same answer if the store does not refuse. -/
theorem import_effect (s : LayoutStore σ) (text : String) (hwrites : s.Accepts text) :
    (Malformed text → s.importText text = (.error (.malformed text), s)) ∧
    (¬ Malformed text → ∃ ms fps t, members? text = some ms ∧ s.importText text = (.ok fps, t) ∧
      (s.importText text).1.map List.length = .ok fps.length ∧
      (∀ fp, fp ∈ fps ↔ fp.text ≠ "" ∧ ∃ v, valueOf? ms fp = some v) ∧
      (fps.Pairwise fun fp fp' => compare fp.layoutKey fp'.layoutKey = .lt) ∧
      (∀ fp ∈ fps, ∃ v l, valueOf? ms fp = some v ∧ v.layout? = some l ∧
        t.blob? fp.layoutKey = some l.toBlob ∧ (t.Readable → t.load fp = (some l, t))) ∧
      (∀ key, (∀ fp ∈ fps, key ≠ fp.layoutKey) → t.blob? key = s.blob? key) ∧
      (∀ key, (t.importText text).2.blob? key = t.blob? key) ∧
      (t.Accepts text → (t.importText text).1 = .ok fps)) := by
  refine ⟨fun h => importText_of_malformed h s, fun h => ?_⟩
  cases hread : read? text with
  | none => exact absurd (malformed_of_read? hread) h
  | some entries =>
    obtain ⟨t, hsave⟩ := hwrites.exists_saveAll hread
    obtain ⟨ms, hmembers, hfps, hentries, hordered⟩ := exists_members_of_read? hread
    have hstored (fp l) (hbrings : Brings text fp l) : t.blob? fp.layoutKey = some l.toBlob :=
      blob?_of_saveAll hread hsave hbrings
    have himport := importText_of_saveAll hread hsave
    refine ⟨ms, entries.map (·.1), t, hmembers, himport, congrArg (·.1.map List.length) himport,
      hfps, hordered, fun fp hfp => ?_, fun key hkey => blob?_saveAll_of_not_mem hsave hkey,
      blob?_importText_of_stored hstored, fun hagain => ?_⟩
    · obtain ⟨⟨_, l⟩, hmem, rfl⟩ := List.mem_map.1 hfp
      have hbrings := (hentries _ l).1 hmem
      have hblob := hstored _ l hbrings
      have hload := load_of_brings hbrings hblob
      obtain ⟨ms', v, hmembers', -, hvalue, hlayout⟩ := hbrings
      cases hmembers.symm.trans hmembers'
      exact ⟨v, l, hvalue, hlayout, hblob, hload⟩
    · obtain ⟨t', hsave'⟩ := hagain.exists_saveAll hread
      rw [importText_of_saveAll hread hsave']

/-- One key is repeated, and one of its values is no layout; another one belongs to no fingerprint.
Then the value that is no layout comes last. -/
theorem import_effect_of_repeated_key :
    let text := "\x7b\"layout:b\":\x7b\x7d,\"layout:a\":7,\"layout:\":[],\"layout:a\":\x7b\"n\":[3,4]\x7d\x7d"
    let malformed := "\x7b\"layout:b\":\x7b\x7d,\"layout:a\":\x7b\"n\":[3,4]\x7d,\"layout:a\":7\x7d"
    let s : LayoutStore MemoryStore := ⟨⟨Dict.ofPairs [("layout:", Blob.ofText "x"),
      ("layout:a", Blob.ofText "y"), ("prefs", Blob.ofText "z")]⟩, false⟩
    let t := (s.importText text).2
    s.Accepts text ∧ (s.importText text).1 = .ok [⟨"a"⟩, ⟨"b"⟩] ∧
      t.load ⟨"a"⟩ = (some (Dict.ofPairs [("n", ⟨3, 4⟩)]), t) ∧
      t.blob? "layout:" = some (Blob.ofText "x") ∧ t.blob? "prefs" = some (Blob.ofText "z") ∧
      (t.importText text).1 = .ok [⟨"a"⟩, ⟨"b"⟩] ∧
      s.Accepts malformed ∧ s.importText malformed = (.error (.malformed malformed), s) := by
  intro text malformed s t
  have hread : read? text = some [(⟨"a"⟩, Dict.ofPairs [("n", ⟨3, 4⟩)]), (⟨"b"⟩, ∅)] := by
    decide +kernel
  have hsound : ¬ Malformed text := by
    intro hmalformed
    rw [read?_of_malformed hmalformed] at hread
    cases hread
  have hresult : (s.importText text).1 = .ok [⟨"a"⟩, ⟨"b"⟩] := by decide +kernel
  obtain ⟨ms, fps, t', hmembers, himport, -, -, -, hlayouts, hkept, -, hagain⟩ :=
    (import_effect s text (accepts_memory s text)).2 hsound
  have ht : t = t' := congrArg Prod.snd himport
  subst ht
  rw [himport] at hresult
  cases hresult
  obtain ⟨v, l, hvalue, hlayout, -, hload⟩ := hlayouts ⟨"a"⟩ (by decide)
  have hl : l = Dict.ofPairs [("n", ⟨3, 4⟩)] := by
    obtain ⟨_, -, -, hentries, -⟩ := exists_members_of_read? hread
    have hmem := (hentries ⟨"a"⟩ l).2 ⟨ms, v, hmembers, by decide, hvalue, hlayout⟩
    simpa using hmem
  refine ⟨accepts_memory s text, congrArg Prod.fst himport, ?_, ?_, ?_,
    hagain (accepts_memory t text), accepts_memory s malformed, ?_⟩
  · rw [hload (readable_memory t), hl]
  · exact (hkept "layout:" (by decide +kernel)).trans (by decide +kernel)
  · exact (hkept "prefs" (by decide +kernel)).trans (by decide +kernel)
  · exact (import_effect s malformed (accepts_memory s malformed)).1
      (malformed_of_read? (by decide +kernel))

end Statescope.LayoutStore
