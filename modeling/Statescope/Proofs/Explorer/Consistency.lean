-- SUMMARY: Every diagram shows the last snapshot that was accepted for it, whatever has happened since.
import Statescope.Proofs.Explorer.Diagrams

/-!
# Consistency

A diagram keeps five things from a snapshot: the elements on its surface, the
highlight, the index of actions, the trace and the panel. `Diagram.Shows` says
that they belong together, and `diagram_consistent` that they do in every run.
-/

namespace Statescope.Explorer

variable [BlobStore σ] {store : LayoutStore σ} {prefs : Prefs} {host : Host} {now : Int}
  {log : Log} {e : Explorer σ} {container : String} {d : Diagram}

/-- Every diagram shows the last accepted snapshot of its container. -/
theorem exists_shows_of_run (h : Run (initial store prefs host now) log e)
    (hd : e.diagrams[container]? = some d) :
    ∃ s, log.lastAccepted? container = some s ∧ Element.WellFormed s.elements ∧ d.Shows s := by
  -- The last command has brought the snapshot in, or the diagram is a step away from one
  -- that showed it before.
  induction h generalizing d with
  | nil => simp [initial] at hd
  | outside store host _ ih => exact ih hd
  | @perform log e c _ ih =>
    rcases (changes_perform e c).takes_or_step hd with
      ⟨text, isFirst, now, s, rfl, hreply, hread, htakes⟩ | ⟨hrefused, d₀, hd₀, hstep⟩
    · have haccepted := Log.accepted?_render container isFirst now hread
      rw [← hreply] at haccepted
      exact ⟨s, Log.lastAccepted?_concat_of_some haccepted, Snapshot.wellFormed_of_read hread,
        htakes.shows⟩
    · obtain ⟨s, hs, hwf, hshows⟩ := ih hd₀
      exact ⟨s, (Log.lastAccepted?_concat_of_none hrefused).trans hs, hwf, hshows.step hwf hstep⟩

/-- What a diagram holds belongs to the last accepted snapshot of its container: the
elements one by one, the marks of the highlight and nothing but these, the index, and the
panel with the trace that has been followed. What is loaded is a graph. -/
theorem diagram_consistent (h : Run (initial store prefs host now) log e)
    (hd : e.diagrams[container]? = some d) :
    ∃ s, log.lastAccepted? container = some s ∧
      List.Forall₂ (Element.ShownAs d.drawing.flashed) s.elements d.drawing.surface.elements ∧
      Element.WellFormed d.drawing.surface.elements ∧
      (d.drawing.flashed = [] ∨ ∃ t, s.lastTransition = some t ∧
        d.drawing.flashed = t.flashSet.filter d.drawing.surface.contains) ∧
      d.drawing.index = .ofSnapshot s ∧
      d.panel = .build s.panel d.trace := by
  obtain ⟨s, hs, hwf, hshows⟩ := exists_shows_of_run h hd
  refine ⟨s, hs, hshows.drawing.elements, hshows.drawing.wellFormed hwf, ?_,
    hshows.drawing.index, hshows.panel⟩
  rw [funext (Drawing.contains_eq hshows.drawing)]
  exact hshows.drawing.flashed

/-- A snapshot of two states and the edge between them, and once more with the edge
highlighted. -/
theorem diagram_consistent_of_highlight :
    let e := initial (σ := MemoryStore) ⟨{}, false⟩ {} {} 0
    let text := "[[[\"a\",\"state-node\"],[\"b\",\"state-node\"]," ++
      "[\"direct_a_b_\",\"connector-edge\",\"\",[],\"a\",\"b\"]],[true,[]],[\"a\",\"b\"]]"
    let commands := [.render "c" text true none, .render "c" text false none]
    ∃ d s, (e.run commands).diagrams["c"]? = some d ∧ d.drawing.flashed = ["direct_a_b_"] ∧
      (e.transcript commands).lastAccepted? "c" = some s ∧
      List.Forall₂ (Element.ShownAs d.drawing.flashed) s.elements d.drawing.surface.elements ∧
      Element.WellFormed d.drawing.surface.elements ∧
      (d.drawing.flashed = [] ∨ ∃ t, s.lastTransition = some t ∧
        d.drawing.flashed = t.flashSet.filter d.drawing.surface.contains) ∧
      d.drawing.index = .ofSnapshot s ∧
      d.panel = .build s.panel d.trace := by
  intro e text commands
  have hflashed : ((e.run commands).diagrams["c"]?.any (·.drawing.flashed = ["direct_a_b_"]))
      = true := by decide +kernel
  obtain ⟨d, hd, hids⟩ := (Option.any_eq_true _ _).1 hflashed
  obtain ⟨s, hs⟩ := diagram_consistent (run_transcript e commands) hd
  exact ⟨d, s, hd, by simpa using hids, hs⟩

end Statescope.Explorer
