import MarketChart.Chart.Plan
import MarketChart.Proofs.WrittenForms

/-!
# What a document displays once it is written

A document that was read, written and read again has the same records and the same samples, its
indicators go to the same panes, and every sample keeps its time and its finite value. What is
displayed is not always the same (`ChartDocument.display_reread`): options without a colour leave a
sample displayed, but they are written like those of a hidden one.
-/

namespace MarketChart

/-- What a question about samples gives for the samples of an indicator, in their order. -/
def ChartDocument.perSample {β : Type} (d : ChartDocument) (ask : Sample → β) (key : String) :
    Option (List β) :=
  (d.indicators.find? key).map fun i => i.data.map ask

namespace Sample

theorem isDisplayed_reread (s : Sample) :
    s.reread.isDisplayed = (s.isDisplayed && s.tint != some .unset) := by
  obtain ⟨time, value, visible, tint⟩ := s
  rcases tint with _ | (_ | _ | color) <;> cases visible <;> rfl

/-- Writing hides a sample exactly if it is shown and has options without a colour. -/
theorem isDisplayed_reread_eq_iff (s : Sample) :
    s.reread.isDisplayed = s.isDisplayed ↔ (s.visible = true → s.tint ≠ some .unset) := by
  obtain ⟨time, value, visible, tint⟩ := s
  rcases tint with _ | (_ | _ | color) <;> cases visible <;>
    simp [isDisplayed, reread, Tint.reread]

end Sample

/-- The values that count are finite, and those are written as they are. -/
theorem Classifier.indicatorRange_reread (c : Classifier) (data : List Sample) :
    c.indicatorRange (data.map Sample.reread) = c.indicatorRange data := by
  have hvalue : ∀ s : Sample, (s.reread.value.filter c.isEligible) =
      s.value.filter c.isEligible := by
    intro s
    cases hs : s.value with
    | none => simp [Sample.reread, hs]
    | some x =>
      cases hx : x.isFinite <;> simp [Sample.reread, hs, Option.filter_some, hx, isEligible]
  unfold indicatorRange
  rw [List.filterMap_map, List.filter_filterMap, List.filter_filterMap]
  simp only [Function.comp_apply, hvalue]

namespace ChartDocument

variable (d : ChartDocument)

theorem perSample_reread {β : Type} (ask : Sample → β) (key : String) :
    d.reread.perSample ask key = d.perSample (fun s => ask s.reread) key := by
  simp only [perSample, reread, KeyMap.find?_mapEntries, Option.map_map, Function.comp_def,
    Indicator.reread, List.map_map]

theorem assignment_reread (settings : Settings) (overrides : Option Overrides) :
    (Plan.build settings overrides d.reread).assignment =
      (Plan.build settings overrides d).assignment := by
  have hpane : ∀ prices key (i : Indicator),
      settings.classifier.assignPane prices overrides key i.reread =
        settings.classifier.assignPane prices overrides key i := by
    intro prices key i
    unfold Classifier.assignPane Classifier.classify
    rw [Indicator.reread, Classifier.indicatorRange_reread]
    rfl
  refine KeyMap.ext ?_
  simp only [Plan.build, Classifier.assignAll, reread, KeyMap.mapEntries, List.map_map,
    Function.comp_def, hpane]

/-- The displays agree exactly if no sample that is shown has options without a colour. -/
theorem perSample_isDisplayed_eq_iff :
    (∀ key, d.reread.perSample Sample.isDisplayed key = d.perSample Sample.isDisplayed key) ↔
      ∀ key i, d.indicators.find? key = some i →
        ∀ s ∈ i.data, s.visible = true → s.tint ≠ some .unset := by
  refine forall_congr' fun key => ?_
  rw [perSample_reread]
  unfold perSample
  cases d.indicators.find? key with
  | none => simp
  | some i =>
    simp only [Option.map_some, Option.some.injEq, List.map_inj_left,
      Sample.isDisplayed_reread_eq_iff]
    exact ⟨fun h j hj => hj ▸ h, fun h => h i rfl⟩

/-- A text that is read as a document can be written and read again. The second document has the
same records and puts every indicator on the same pane, and its samples have the same times and
finite values. It displays a sample if the first does and the sample does not have options without
a colour, so the two display the same exactly if no sample that is shown has such options. -/
theorem display_reread {text : String} {v : Json} {d : ChartDocument}
    (hread : Json.read? text = some v) (hd : decode? v = some d) :
    ∃ d', decode? d.encode = some d' ∧ d'.candlestick = d.candlestick ∧
      (∀ settings overrides, (Plan.build settings overrides d').assignment =
        (Plan.build settings overrides d).assignment) ∧
      (∀ key, d'.perSample Sample.time key = d.perSample Sample.time key ∧
        d'.perSample Sample.value key = d.perSample (·.value.filter Float.isFinite) key ∧
        d'.perSample Sample.isDisplayed key =
          d.perSample (fun s => s.isDisplayed && s.tint != some .unset) key) ∧
      ((∀ key, d'.perSample Sample.isDisplayed key = d.perSample Sample.isDisplayed key) ↔
        ∀ key i, d.indicators.find? key = some i →
          ∀ s ∈ i.data, s.visible = true → s.tint ≠ some .unset) := by
  have hback := restores.back (Json.inRange_of_read? hread) hd
  refine ⟨d.reread, hback, rfl, d.assignment_reread, fun key => ⟨?_, ?_, ?_⟩,
    d.perSample_isDisplayed_eq_iff⟩
  · exact d.perSample_reread Sample.time key
  · exact d.perSample_reread Sample.value key
  · rw [perSample_reread]
    simp only [Sample.isDisplayed_reread]

/-- A document with one sample, as a tree. -/
def rsiTree (options : Json) : Json :=
  .obj [("indicators", .obj [("rsi", .obj [("data", .arr [.obj [("time", .int 60000),
    ("value", .int 50), ("options", options)]])])])]

/-- A document with one sample. -/
def rsiDocument (tint : Tint) : ChartDocument where
  indicators := KeyMap.empty.insert "rsi"
    { data := [{ time := 60000, value := some (Float.ofInt 50), tint := some tint }] }

def coloredText : String :=
  "\x7b\"indicators\":\x7b\"rsi\":\x7b\"data\":[\x7b\"time\":60000,\"value\":50,\"options\":" ++
    "\x7b\"color\":\"red\"\x7d\x7d]\x7d\x7d\x7d"

def uncoloredText : String :=
  "\x7b\"indicators\":\x7b\"rsi\":\x7b\"data\":[\x7b\"time\":60000,\"value\":50,\"options\":" ++
    "\x7b\x7d\x7d]\x7d\x7d\x7d"

/-- A sample with a colour is displayed as before. -/
theorem display_reread_colored :
    Json.read? coloredText = some (rsiTree (.obj [("color", .str "red")])) ∧
      decode? (rsiTree (.obj [("color", .str "red")])) = some (rsiDocument (.colored "red")) ∧
      ∃ d', decode? (rsiDocument (.colored "red")).encode = some d' ∧ ∀ key,
        d'.perSample Sample.isDisplayed key =
          (rsiDocument (.colored "red")).perSample Sample.isDisplayed key := by
  have hread : Json.read? coloredText = some (rsiTree (.obj [("color", .str "red")])) := rfl
  have hd : decode? (rsiTree (.obj [("color", .str "red")])) =
      some (rsiDocument (.colored "red")) := rfl
  obtain ⟨d', hd', -, -, -, hsame⟩ := display_reread hread hd
  refine ⟨hread, hd, d', hd', hsame.2 fun key i hi s hs _ => ?_⟩
  obtain ⟨rfl, rfl⟩ := Prod.mk.inj (List.mem_singleton.1 (KeyMap.find?_eq_some_iff.1 hi))
  obtain rfl := List.mem_singleton.1 hs
  simp

/-- A sample with options and no colour is displayed, and is hidden once it was written. -/
theorem display_differs :
    Json.read? uncoloredText = some (rsiTree (.obj [])) ∧
      decode? (rsiTree (.obj [])) = some (rsiDocument .unset) ∧
      (rsiDocument .unset).perSample Sample.isDisplayed "rsi" = some [true] ∧
      decode? (rsiDocument .unset).encode = some (rsiDocument .hidden) ∧
      (rsiDocument .hidden).perSample Sample.isDisplayed "rsi" = some [false] :=
  ⟨rfl, rfl, rfl, rfl, rfl⟩

end ChartDocument

end MarketChart
