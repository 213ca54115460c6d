-- SUMMARY: Which names and positions an oracle takes from the nodes of a rendered flowchart.
import Statescope.Proofs.Oracle.Transform

/-!
# Rendered flowcharts

The id of a rendered node is read up to its second hyphen. So a node is found under what
stands before the first hyphen of its name, and it is found under its name exactly if there
is no hyphen in it (`PositionOracle.named_iff`).
-/

namespace Statescope

/-- A node as a flowchart is rendered: the name and a number make up the id, and two texts
that spell finite numbers make up the transform. -/
structure RenderedNode where
  name : String
  number : List (Fin 10)
  x : String
  y : String
  position : Position
  name_ne : name ≠ ""
  reads_x : Spelled.float? (Text.trim x.toList) = some position.x
  reads_y : Spelled.float? (Text.trim y.toList) = some position.y

namespace RenderedNode

def id (n : RenderedNode) : String :=
  "flowchart-" ++ n.name ++ "-" ++ String.ofList (n.number.map Numeral.digitChar)

def transform (n : RenderedNode) : String := "translate(" ++ n.x ++ "," ++ n.y ++ ")"

/-- What stands before the first hyphen of the name. -/
def stem (n : RenderedNode) : String := String.ofList (n.name.toList.takeWhile (· ≠ '-'))

end RenderedNode

/-! ## Ids -/

theorem Text.exists_splitOn_eq_cons (sep : Char) (cs : List Char) :
    ∃ parts, splitOn sep cs = cs.takeWhile (· ≠ sep) :: parts := by
  induction cs with
  | nil => exact ⟨[], rfl⟩
  | cons c cs ih =>
    obtain ⟨parts, hparts⟩ := ih
    by_cases hc : c = sep
    · exact ⟨splitOn sep cs, by simp [splitOn, hc]⟩
    · exact ⟨parts, by simp [splitOn, hc, hparts]⟩

theorem Text.takeWhile_append_cons (sep : Char) (cs rest : List Char) :
    (cs ++ sep :: rest).takeWhile (· ≠ sep) = cs.takeWhile (· ≠ sep) := by
  rw [List.takeWhile_append]
  split
  · rename_i hlength
    rw [List.takeWhile_cons_of_neg (by simp), List.append_nil]
    exact ((List.takeWhile_prefix _).eq_of_length hlength).symm
  · rfl

namespace PositionOracle

/-- An id gives what stands before the first hyphen of the name, if that is anything. -/
theorem nodeName?_id (n : RenderedNode) :
    nodeName? n.id.toList = if n.stem = "" then none else some n.stem.toList := by
  have hid : n.id.toList = "flowchart".toList ++
      '-' :: (n.name.toList ++ '-' :: n.number.map Numeral.digitChar) := by
    simp [RenderedNode.id]
  obtain ⟨parts, hparts⟩ := Text.exists_splitOn_eq_cons '-'
    (n.name.toList ++ '-' :: n.number.map Numeral.digitChar)
  have hstem : n.stem.toList = n.name.toList.takeWhile (· ≠ '-') := String.toList_ofList
  rw [Text.takeWhile_append_cons, ← hstem] at hparts
  rw [nodeName?, hid, Text.splitOn_append_cons (by decide), hparts]
  by_cases hempty : n.stem = "" <;> simp [hempty]

/-! ## Transforms -/

theorem parseTranslate?_transform (n : RenderedNode) :
    parseTranslate? n.transform.toList = some n.position := by
  have hfree {c : Char} {cs : List Char} {x : Float}
      (hread : Spelled.float? (Text.trim cs) = some x) (hblank : Text.isBlank c = false)
      (hc : c ∉ Spelled.alphabet) : c ∉ cs :=
    fun hmem => hc (Spelled.mem_alphabet_of_float? hread (Text.mem_trim_of_mem hmem hblank))
  refine parseTranslate?_eq_some_iff.2
    ⟨[], n.x.toList, n.y.toList, [], ?_, n.reads_x, n.reads_y⟩
  exact
    { eq_append := by simp [RenderedNode.transform, opening]
      first := Text.not_beginsIn_nil _ _
      no_comma := hfree n.reads_x (by decide) (by decide)
      closes_left := hfree n.reads_x (by decide) (by decide)
      closes_right := hfree n.reads_y (by decide) (by decide) }

/-! ## Nodes -/

theorem node?_rendered (n : RenderedNode) :
    node? (n.id, n.transform) = if n.stem = "" then none else some (n.stem, n.position) := by
  simp only [node?, nodeName?_id, parseTranslate?_transform]
  split
  · rfl
  · simp

/-- Of the nodes whose names begin alike the last one counts. -/
theorem getElem?_nodes_ofRendered (nodes : List RenderedNode) (labels : List (String × String))
    (key : String) :
    (ofRendered (nodes.map fun n => (n.id, n.transform)) labels).nodes[key]?
      = if key = "" then none else (nodes.reverse.find? (·.stem = key)).map (·.position) := by
  simp only [ofRendered]
  rw [Dict.getElem?_ofPairs, ← List.filterMap_reverse, ← List.map_reverse, List.filterMap_map]
  induction nodes.reverse with
  | nil => simp
  | cons n rest ih =>
    rw [List.filterMap_cons, Function.comp_apply, node?_rendered, List.find?_cons]
    by_cases hstem : n.stem = ""
    · rw [if_pos hstem, ih, hstem]
      split
      · rfl
      · rename_i hkey
        rw [decide_eq_false (Ne.symm hkey)]
    · rw [if_neg hstem, List.lookup_cons, ih]
      by_cases hkey : key = n.stem
      · subst hkey
        simp [hstem]
      · rw [beq_eq_false_iff_ne.2 hkey, decide_eq_false (Ne.symm hkey)]

/-- Without hyphens a name is its own stem. -/
theorem stem_eq_name_iff (n : RenderedNode) : n.stem = n.name ↔ '-' ∉ n.name.toList := by
  rw [← String.toList_inj, RenderedNode.stem, String.toList_ofList, List.takeWhile_eq_self_iff]
  constructor
  · intro hfree hmem
    simpa using hfree _ hmem
  · intro hfree c hc
    simpa using ne_of_mem_of_not_mem hc hfree

theorem not_mem_stem (n : RenderedNode) : '-' ∉ n.stem.toList := by
  rw [RenderedNode.stem, String.toList_ofList]
  intro hmem
  simpa using List.mem_takeWhile_imp hmem

theorem mem_of_find?_stem {nodes : List RenderedNode} {key : String} {n : RenderedNode}
    (h : nodes.reverse.find? (·.stem = key) = some n) : n ∈ nodes ∧ n.stem = key :=
  ⟨List.mem_reverse.1 (List.mem_of_find?_eq_some h), by simpa using List.find?_some h⟩

/-- If the names are their own stems, no other node is found in the place of one. -/
theorem find?_stem_eq_some {nodes : List RenderedNode} (hnames : (nodes.map (·.name)).Nodup)
    (hfree : ∀ n ∈ nodes, '-' ∉ n.name.toList) {n : RenderedNode} (hn : n ∈ nodes) :
    nodes.reverse.find? (·.stem = n.name) = some n := by
  cases hfound : nodes.reverse.find? (·.stem = n.name) with
  | none =>
    have hnone := List.find?_eq_none.1 hfound n (List.mem_reverse.2 hn)
    simp [(stem_eq_name_iff n).2 (hfree n hn)] at hnone
  | some m =>
    obtain ⟨hm, hkey⟩ := mem_of_find?_stem hfound
    have hname : m.name = n.name := ((stem_eq_name_iff m).2 (hfree m hm)).symm.trans hkey
    rw [List.inj_on_of_nodup_map hnames hm hn hname]

/-- The nodes of an oracle are those that have been rendered, by their names. -/
def Named (nodes : List RenderedNode) (o : PositionOracle) : Prop :=
  ∀ (name : String) p, o.nodes[name]? = some p ↔ ∃ n ∈ nodes, n.name = name ∧ n.position = p

/-- Each key is what stands before the first hyphen of a name, and the last such node counts.
So the nodes of the flowchart, which have names of their own, are found under their names
exactly if there is no hyphen in any of these. -/
theorem named_iff (nodes : List RenderedNode) (labels : List (String × String))
    (hnames : (nodes.map (·.name)).Nodup) :
    let o := ofRendered (nodes.map fun n => (n.id, n.transform)) labels
    (∀ key : String, o.nodes[key]?
      = if key = "" then none else (nodes.reverse.find? (·.stem = key)).map (·.position)) ∧
    (Named nodes o ↔ ∀ n ∈ nodes, '-' ∉ n.name.toList) := by
  intro o
  have hnodes (key : String) : o.nodes[key]? = if key = "" then none
      else (nodes.reverse.find? (·.stem = key)).map (·.position) :=
    getElem?_nodes_ofRendered nodes labels key
  refine ⟨hnodes, ?_, ?_⟩
  · intro hnamed n hn
    have hfound := (hnamed n.name n.position).2 ⟨n, hn, rfl, rfl⟩
    rw [hnodes, if_neg n.name_ne, Option.map_eq_some_iff] at hfound
    obtain ⟨m, hm, -⟩ := hfound
    rw [← (mem_of_find?_stem hm).2]
    exact not_mem_stem m
  · intro hfree name p
    rw [hnodes]
    constructor
    · intro hfound
      rw [Option.ite_none_left_eq_some, Option.map_eq_some_iff] at hfound
      obtain ⟨-, n, hn, rfl⟩ := hfound
      obtain ⟨hmem, hkey⟩ := mem_of_find?_stem hn
      exact ⟨n, hmem, ((stem_eq_name_iff n).2 (hfree n hmem)).symm.trans hkey, rfl⟩
    · rintro ⟨n, hn, rfl, rfl⟩
      rw [if_neg n.name_ne, find?_stem_eq_some hnames hfree hn, Option.map_some]

/-- The node `a-b`. -/
def hyphenated : RenderedNode where
  name := "a-b"
  number := "1".toList.filterMap Numeral.digit?
  x := "1"
  y := "2"
  position := ⟨1, 2⟩
  name_ne := by decide
  reads_x := by decide +kernel
  reads_y := by decide +kernel

/-- The node `s0`. -/
def plain : RenderedNode where
  name := "s0"
  number := "12".toList.filterMap Numeral.digit?
  x := "10.5"
  y := " -2e1 "
  position := ⟨10.5, -20⟩
  name_ne := by decide
  reads_x := by decide +kernel
  reads_y := by decide +kernel

theorem named_iff_of_hyphen :
    Named [plain] (ofRendered [("flowchart-s0-12", "translate(10.5, -2e1 )")] []) ∧
    ¬ Named [plain, hyphenated] (ofRendered
      [("flowchart-s0-12", "translate(10.5, -2e1 )"), ("flowchart-a-b-1", "translate(1,2)")] []) := by
  constructor
  · exact (named_iff [plain] [] (by decide)).2.2 (by decide)
  · intro hnamed
    have hfree := (named_iff [plain, hyphenated] [] (by decide)).2.1 hnamed
    exact absurd hfree (by decide)

theorem not_named_of_hyphen :
    hyphenated.id = "flowchart-a-b-1" ∧ hyphenated.transform = "translate(1,2)" ∧
    (ofRendered [(hyphenated.id, hyphenated.transform)] []).nodes = Dict.ofPairs [("a", ⟨1, 2⟩)] ∧
    ¬ Named [hyphenated] (ofRendered [(hyphenated.id, hyphenated.transform)] []) := by
  have hnodes : (ofRendered [(hyphenated.id, hyphenated.transform)] []).nodes
      = Dict.ofPairs [("a", ⟨1, 2⟩)] := by decide +kernel
  refine ⟨by decide, by decide, hnodes, ?_⟩
  intro hnamed
  have hfound := (hnamed "a-b" ⟨1, 2⟩).2 ⟨hyphenated, List.mem_singleton_self _, rfl, rfl⟩
  rw [hnodes] at hfound
  revert hfound
  decide +kernel

end PositionOracle

end Statescope
