import MarketChart.Proofs.FirstLoad

/-!
# Where a load can fail

There are three ways for a load to go. Without a document it fails (`Chart.load_of_error`), on panes
that have a main view it fails before it has drawn anything (`Chart.load_of_main`), and where there
are no panes it draws the document (`Chart.load_of_empty`). A chart is never in between: it has a
main view, or there is nothing on it at all (`Chart.Grounded`). `Chart.loaded_load` says what can
come of a load on such a chart, and what loads preserve is derived from it.
-/

namespace MarketChart

/-- Without views there is nothing to change. -/
theorem Panes.change_of_empty {p : Panes} (hv : p.views = []) (c : Change) : p.change c = p := by
  obtain ⟨views, sync, faults, made, closed⟩ := p
  obtain rfl : views = [] := hv
  cases c <;> rfl

/-- A plan is not drawn where there is a main view. -/
theorem Plan.draw_of_main (plan : Plan) (width : Nat) {s : Stage} (h : mainPane ∈ s.panes.names) :
    plan.draw width s = (s, some ⟨[], .mainExists⟩) := by
  simp [draw, steps, Stage.inTurn, Stage.createMain, Stage.onPanes, Panes.createMain, h]

namespace Chart

/-- The chart has a main view, or nothing at all. -/
def Grounded (c : Chart) : Prop :=
  (c.panes.views = [] ∧ c.panes.sync = {} ∧ c.router.entries = []) ∨ mainPane ∈ c.panes.names

theorem Grounded.change {c : Chart} (h : c.Grounded) (hw : c.panes.Wired id) {m : Panes.Change}
    (hm : m ≠ .synchronize) : { c with panes := c.panes.change m }.Grounded := by
  refine h.imp (fun hempty => ?_) fun hmain => ?_
  · rw [Panes.change_of_empty hempty.1]
    exact hempty
  · have hnames : (c.panes.change m).names = c.panes.names :=
      (Panes.change_step hw hm).alike.map_eq fun _ _ hs => hs.name
    rw [hnames]
    exact hmain

theorem Grounded.onFrame {c : Chart} (h : c.Grounded) (hw : c.panes.Wired id) :
    c.onFrame.1.Grounded := by
  refine h.imp (fun hempty => ?_) fun hmain => ?_
  · have hidle : c.panes.onFrame = (c.panes, 0) := Panes.onFrame_of_idle (by rw [hempty.2.1])
    simp only [Chart.onFrame, hidle]
    exact hempty
  · have hnames : c.panes.onFrame.1.names = c.panes.names :=
      (Panes.alike_onFrame hw).map_eq fun _ _ hs => hs.name
    simp only [Chart.onFrame, hnames]
    exact hmain

section

variable {c : Chart} {feed : Feed}

theorem load_of_error {f : Failure} (hd : (feed c.loads).document = .error f) :
    c.load feed = ({ c with loads := c.loads + 1 }, .error (f.within .loadingDocument)) := by
  simp [load, hd]

theorem load_of_main (hmain : mainPane ∈ c.panes.names) {document : ChartDocument}
    (hd : (feed c.loads).document = .ok document) :
    c.load feed = ({ c with
      loads := c.loads + 1
      asked := c.asked ++ [document.metadata.strategyName] }, .error ⟨[], .mainExists⟩) := by
  have hdraw := fun plan : Plan => plan.draw_of_main c.width (s := ⟨c.panes, c.router⟩) hmain
  simp only [load, hd, hdraw]

end

/-- What can come of a load: it fails and nothing is drawn, or a plan is drawn where there was
nothing. -/
inductive Loaded (feed : Feed) (c : Chart) : Chart × Except Failure Unit → Prop where
  | failed {f : Failure} {asked : List String}
    (cause : (∃ f, (feed c.loads).document = .error f) ∨ mainPane ∈ c.panes.names) :
    Loaded feed c ({ c with loads := c.loads + 1, asked }, .error f)
  | drawn {document : ChartDocument} {plan : Plan} {r : Router} {asked : List String}
    (hd : (feed c.loads).document = .ok document) (hv : c.panes.views = [])
    (hs : c.panes.sync = {}) (hplan : plan.Placed) :
    Loaded feed c ({ c with
      panes := plan.drawn c.width c.panes
      router := r
      loaded := some plan.loaded
      loads := c.loads + 1
      asked }, .ok ())

theorem loaded_load {c : Chart} (h : c.Grounded) (hf : c.panes.faults = []) (feed : Feed) :
    c.Loaded feed (c.load feed) := by
  cases hd : (feed c.loads).document with
  | error f =>
    rw [load_of_error hd]
    exact .failed (.inl ⟨f, hd⟩)
  | ok document =>
    rcases h with ⟨hv, hs, hr⟩ | hmain
    · obtain ⟨r, hload, -⟩ := load_of_empty hv hf hr hd
      rw [hload]
      exact .drawn hd hv hs (Plan.placed_build _ _ _)
    · rw [load_of_main hmain hd]
      exact .failed (.inr hmain)

theorem Grounded.load {c : Chart} (h : c.Grounded) (hf : c.panes.faults = []) (feed : Feed) :
    (c.load feed).1.Grounded := by
  have hload := loaded_load h hf feed
  generalize c.load feed = result at hload
  cases hload with
  | failed => exact h
  | drawn hd hv hs hplan =>
    have hnames := Plan.names_drawn hplan c.width hf (by rw [hs]; rfl)
    exact .inr (by simp only [hnames, List.mem_cons, true_or])

end Chart

end MarketChart
