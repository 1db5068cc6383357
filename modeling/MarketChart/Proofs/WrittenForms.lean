import MarketChart.Document.Chart
import MarketChart.Plot.Point
import MarketChart.Proofs.Rereading
import MarketChart.Settings
import MarketChart.Window

/-!
# The written forms of the data

What is written of any piece of data is accepted again and written the same way: reading brings a
tree into its written form, and from then on nothing changes (`settles_of_inRange`). The tree may be
an object or an array of its fields, use second names, leave out fields that have a default, have
fields that nobody knows or texts in the place of numbers.

Most data are read again as they were. The exceptions are samples: a value that is infinite or not a
number is absent the second time, and options without a colour come back as those of a hidden
sample (`Tint.reread`, `Sample.reread`, `PlotPoint.reread`).
-/

namespace MarketChart

open Json (restores_bool restores_text restores_int64 restores_natBelow restores_float
  restores_lenient restores_raw restores_optionalText restores_optionalFloat record?_of_sublist
  inRange_of_record?)

/-! ## Candles -/

theorem Candle.restores : Restores decode? encode id where
  back := by
    intro v c hv h
    simp only [decode?, Option.bind_eq_bind, Option.bind_eq_some_iff] at h ⊢
    obtain ⟨fields, hrecord, time, htime, opening, hopening, high, hhigh, low, hlow, closing,
      hclosing, volume, hvolume, hc⟩ := h
    obtain rfl := Option.some.inj hc
    have hf := inRange_of_record? hv hrecord
    exact ⟨_, record?_of_sublist (.refl _) (by decide), _, restores_int64.required hf htime rfl,
      _, restores_float.required hf hopening rfl, _, restores_float.required hf hhigh rfl,
      _, restores_float.required hf hlow rfl, _, restores_float.required hf hclosing rfl,
      _, restores_float.required hf hvolume rfl, rfl⟩
  alike := fun _ => rfl

theorem RawCandle.restores : Restores decode? encode id where
  back := by
    intro v r hv h
    simp only [decode?, Option.bind_eq_bind, Option.bind_eq_some_iff] at h ⊢
    obtain ⟨fields, hrecord, openTime, hopenTime, time, htime, opening, hopening, high, hhigh,
      low, hlow, closing, hclosing, volume, hvolume, hr⟩ := h
    obtain rfl := Option.some.inj hr
    have hf := inRange_of_record? hv hrecord
    have hnames := ((Json.names_ofPresent "openTime" id openTime).append
      (Json.names_ofPresent "time" id time)).append
        (.refl ["open", "high", "low", "close", "volume"])
    refine ⟨_, record?_of_sublist (by simpa using hnames) (by decide),
      _, restores_raw.present rfl hf hopenTime ?_, _, restores_raw.present rfl hf htime ?_,
      _, restores_raw.withDefault hf rfl hopening ?_, _, restores_raw.withDefault hf rfl hhigh ?_,
      _, restores_raw.withDefault hf rfl hlow ?_, _, restores_raw.withDefault hf rfl hclosing ?_,
      _, restores_raw.withDefault hf rfl hvolume ?_, rfl⟩
    all_goals simp [List.lookup_append, Json.lookup_ofPresent, lookup_cons_eq_ite]
  alike := fun _ => rfl

/-! ## Indicators -/

/-- The options of a sample as they are read again. -/
def Tint.reread : Tint → Tint
  | .unset => .hidden
  | t => t

theorem Tint.restores : Restores decode? encode reread where
  back := by
    rintro v (_ | _ | color) _ _
    · rfl
    · rfl
    · rfl
  alike := by
    rintro (_ | _ | color)
    · rfl
    · rfl
    · rfl

/-- A sample as it is read again. -/
def Sample.reread (s : Sample) : Sample :=
  { s with value := s.value.filter Float.isFinite, tint := s.tint.map Tint.reread }

theorem Sample.restores : Restores decode? encode reread where
  back := by
    intro v s hv h
    simp only [decode?, Option.bind_eq_bind, Option.bind_eq_some_iff] at h ⊢
    obtain ⟨fields, hrecord, time, htime, value, hvalue, visible, hvisible, tint, htint, hs⟩ := h
    obtain rfl := Option.some.inj hs
    have hf := inRange_of_record? hv hrecord
    have hnames := (List.Sublist.refl ["time", "value", "visible"]).append
      (Json.names_ofPresent "options" Tint.encode tint)
    refine ⟨_, record?_of_sublist (by simpa using hnames) (by decide),
      _, restores_int64.required hf htime ?_, _, restores_lenient.withDefault hf rfl hvalue ?_,
      _, restores_bool.withDefault hf rfl hvisible ?_,
      _, (Tint.restores.nullable rfl).present rfl hf htint ?_, rfl⟩
    all_goals simp [Json.lookup_ofPresent, lookup_cons_eq_ite]
  alike := by
    intro s
    have hvalue := restores_lenient.alike s.value
    have htint : Json.ofPresent "options" Tint.encode (s.tint.map Tint.reread) =
        Json.ofPresent "options" Tint.encode s.tint := by
      cases s.tint with
      | none => rfl
      | some t => simp only [Option.map_some, Json.ofPresent, Tint.restores.alike]
    simp only [encode, reread, hvalue, htint]

theorem PlotKind.restores : Restores decode? encode id where
  back := by
    rintro v (_ | _) _ _
    · rfl
    · rfl
  alike := fun _ => rfl

theorem SeriesStyle.restores : Restores decode? encode id where
  back := by
    intro v s hv h
    simp only [decode?, Option.bind_eq_bind, Option.bind_eq_some_iff] at h ⊢
    obtain ⟨fields, hrecord, kind, hkind, color, hcolor, lineWidth, hlineWidth, hs⟩ := h
    obtain rfl := Option.some.inj hs
    have hf := inRange_of_record? (Json.inRange_renamed _ _ hv) hrecord
    have hnames := ((Json.names_ofPresent "kind" .str kind).append
      (Json.names_ofPresent "color" .str color)).append
        (Json.names_ofPresent "lineWidth" .ofFloat lineWidth)
    rw [← List.map_append, ← List.map_append] at hnames
    have hsecond : (encode ⟨kind, color, lineWidth⟩).renamed "style" "kind" =
        encode ⟨kind, color, lineWidth⟩ :=
      Json.renamed_of_not_mem fun hmem => absurd (hnames.subset hmem) (by decide)
    rw [hsecond]
    refine ⟨_, record?_of_sublist hnames (by decide),
      _, restores_optionalText.present rfl hf hkind ?_,
      _, restores_optionalText.present rfl hf hcolor ?_,
      _, restores_optionalFloat.present rfl hf hlineWidth ?_, rfl⟩
    all_goals simp [List.lookup_append, Json.lookup_ofPresent]
  alike := fun _ => rfl

/-- An indicator as it is read again. -/
def Indicator.reread (i : Indicator) : Indicator := { i with data := i.data.map Sample.reread }

theorem Indicator.restores : Restores decode? encode reread where
  back := by
    intro v i hv h
    simp only [decode?, Option.bind_eq_bind, Option.bind_eq_some_iff] at h ⊢
    obtain ⟨fields, hrecord, data, hdata, pane, hpane, title, htitle, style, hstyle, hi⟩ := h
    obtain rfl := Option.some.inj hi
    have hf := inRange_of_record? hv hrecord
    have hnames := (((List.Sublist.refl ["data"]).append
      (Json.names_ofPresent "pane" .str pane)).append
        (Json.names_ofPresent "title" .str title)).append (.refl ["style"])
    refine ⟨_, record?_of_sublist (by simpa using hnames) (by decide),
      _, Sample.restores.list.withDefault hf rfl hdata ?_,
      _, restores_optionalText.present rfl hf hpane ?_,
      _, restores_optionalText.present rfl hf htitle ?_,
      _, SeriesStyle.restores.withDefault hf rfl hstyle ?_, rfl⟩
    all_goals simp [List.lookup_append, Json.lookup_ofPresent, lookup_cons_eq_ite]
  alike := by
    intro i
    have hdata := Sample.restores.list.alike i.data
    simp only [encode, reread, hdata]

/-! ## Overrides -/

theorem OverrideFields.restores : Restores decode? encode id where
  back := by
    intro v o hv h
    simp only [decode?, Option.bind_eq_bind, Option.bind_eq_some_iff] at h ⊢
    obtain ⟨fields, hrecord, pane, hpane, style, hstyle, color, hcolor, lineWidth, hlineWidth,
      ho⟩ := h
    obtain rfl := Option.some.inj ho
    have hf := inRange_of_record? hv hrecord
    exact ⟨_, record?_of_sublist (.refl _) (by decide),
      _, restores_optionalText.withDefault hf rfl hpane rfl,
      _, restores_optionalText.withDefault hf rfl hstyle rfl,
      _, restores_optionalText.withDefault hf rfl hcolor rfl,
      _, restores_optionalFloat.withDefault hf rfl hlineWidth rfl, rfl⟩
  alike := fun _ => rfl

theorem OverrideFields.sound_encode (o : OverrideFields) : o.encode.sound = true := by
  have htext : ∀ a : Option String, (Json.ofOption .str a).sound = true := by
    rintro (_ | a) <;> rfl
  have hfloat : ∀ a : Option Float, (Json.ofOption .ofFloat a).sound = true := by
    rintro (_ | a)
    · rfl
    · rw [Json.ofOption, Json.ofFloat]
      split <;> rfl
  simp [encode, Json.sound, Json.soundEntries, htext, hfloat]

theorem Override.restores : Restores decode? encode id where
  back := by
    rintro v (name | fields) hv h
    · rfl
    · have hread : OverrideFields.decode? v = some fields := by
        unfold decode? at h
        split at h
        · split at h
          · simp at h
          · obtain ⟨o, ho, heq⟩ := Option.map_eq_some_iff.1 h
            obtain rfl : o = fields := by simpa using heq
            exact ho
        · simp at h
      have hdetailed : decode? fields.encode =
          (OverrideFields.decode? fields.encode).map .detailed := if_pos fields.sound_encode
      rw [encode, hdetailed, OverrideFields.restores.back hv hread]
      rfl
  alike := fun _ => rfl

theorem StrategyConfig.restores : Restores decode? encode id where
  back := by
    intro v c hv h
    simp only [decode?, Option.bind_eq_bind, Option.bind_eq_some_iff] at h ⊢
    obtain ⟨fields, hrecord, indicators, hindicators, hc⟩ := h
    obtain rfl := Option.some.inj hc
    have hf := inRange_of_record? hv hrecord
    exact ⟨_, record?_of_sublist (.refl _) (by decide),
      _, (Override.restores.map_id.nullable_id rfl).withDefault hf rfl hindicators rfl, rfl⟩
  alike := fun _ => rfl

/-! ## Points -/

/-- A plotted sample as it is read again. -/
def PlotPoint.reread (p : PlotPoint) : PlotPoint :=
  { p with value := p.value.filter Float.isFinite }

theorem PlotPoint.restores : Restores decode? encode reread where
  back := by
    intro v p hv h
    simp only [decode?, Option.bind_eq_bind, Option.bind_eq_some_iff] at h ⊢
    obtain ⟨fields, hrecord, time, htime, value, hvalue, color, hcolor, hp⟩ := h
    obtain rfl := Option.some.inj hp
    have hf := inRange_of_record? hv hrecord
    exact ⟨_, record?_of_sublist (.refl _) (by decide),
      _, restores_int64.required hf htime rfl, _, restores_lenient.withDefault hf rfl hvalue rfl,
      _, restores_optionalText.withDefault hf rfl hcolor rfl, rfl⟩
  alike := by
    intro p
    have hvalue := restores_lenient.alike p.value
    simp only [encode, reread, hvalue]

theorem RenderPoint.restores : Restores decode? encode id where
  back := by
    intro v p hv h
    simp only [decode?, Option.bind_eq_bind, Option.bind_eq_some_iff] at h ⊢
    obtain ⟨fields, hrecord, time, htime, value, hvalue, color, hcolor, hp⟩ := h
    obtain rfl := Option.some.inj hp
    have hf := inRange_of_record? hv hrecord
    have hnames := (List.Sublist.refl ["time", "value"]).append
      (Json.names_ofPresent "color" .str color)
    refine ⟨_, record?_of_sublist (by simpa using hnames) (by decide),
      _, restores_int64.required hf htime ?_, _, restores_float.required hf hvalue ?_,
      _, restores_optionalText.present rfl hf hcolor ?_, rfl⟩
    all_goals simp [Json.lookup_ofPresent, lookup_cons_eq_ite]
  alike := fun _ => rfl

/-! ## Reports -/

theorem Direction.restores : Restores decode? encode id where
  back := by
    rintro v (_ | _) _ _
    · rfl
    · rfl
  alike := fun _ => rfl

theorem Trade.restores : Restores decode? encode id where
  back := by
    intro v t hv h
    simp only [decode?, Option.bind_eq_bind, Option.bind_eq_some_iff] at h ⊢
    obtain ⟨fields, hrecord, entryTime, hentryTime, entryBar, hentryBar, direction, hdirection,
      entryPrice, hentryPrice, exitPrice, hexitPrice, size, hsize, profit, hprofit, status,
      hstatus, ht⟩ := h
    obtain rfl := Option.some.inj ht
    have hf := inRange_of_record? hv hrecord
    exact ⟨_, record?_of_sublist (.refl _) (by decide),
      _, (restores_int64.nullable_id rfl).withDefault hf rfl hentryTime rfl,
      _, ((restores_natBelow _).nullable_id rfl).withDefault hf rfl hentryBar rfl,
      _, Direction.restores.required hf hdirection rfl,
      _, restores_float.required hf hentryPrice rfl,
      _, restores_optionalFloat.withDefault hf rfl hexitPrice rfl,
      _, restores_float.required hf hsize rfl,
      _, restores_optionalFloat.withDefault hf rfl hprofit rfl,
      _, restores_optionalText.withDefault hf rfl hstatus rfl, rfl⟩
  alike := fun _ => rfl

theorem StrategyReport.restores : Restores decode? encode id where
  back := by
    intro v r hv h
    simp only [decode?, Option.bind_eq_bind, Option.bind_eq_some_iff] at h ⊢
    obtain ⟨fields, hrecord, trades, htrades, openTrades, hopenTrades, netProfit, hnetProfit,
      hr⟩ := h
    obtain rfl := Option.some.inj hr
    have hf := inRange_of_record? hv hrecord
    exact ⟨_, record?_of_sublist (.refl _) (by decide),
      _, Trade.restores.list_id.withDefault hf rfl htrades rfl,
      _, Trade.restores.list_id.withDefault hf rfl hopenTrades rfl,
      _, restores_optionalFloat.withDefault hf rfl hnetProfit rfl, rfl⟩
  alike := fun _ => rfl

/-! ## Panes, settings and windows -/

theorem PaneConfig.restores : Restores decode? encode id where
  back := by
    intro v c hv h
    simp only [decode?, Option.bind_eq_bind, Option.bind_eq_some_iff] at h ⊢
    obtain ⟨fields, hrecord, height, hheight, fixed, hfixed, hc⟩ := h
    obtain rfl := Option.some.inj hc
    have hf := inRange_of_record? hv hrecord
    exact ⟨_, record?_of_sublist (.refl _) (by decide),
      _, (restores_natBelow _).required hf hheight rfl,
      _, restores_bool.withDefault hf rfl hfixed rfl, rfl⟩
  alike := fun _ => rfl

theorem UiConfig.restores : Restores decode? encode id where
  back := by
    intro v c hv h
    simp only [decode?, Option.bind_eq_bind, Option.bind_eq_some_iff] at h ⊢
    obtain ⟨fields, hrecord, panes, hpanes, hc⟩ := h
    obtain rfl := Option.some.inj hc
    have hf := inRange_of_record? hv hrecord
    exact ⟨_, record?_of_sublist (.refl _) (by decide),
      _, PaneConfig.restores.map_id.withDefault hf rfl hpanes rfl, rfl⟩
  alike := fun _ => rfl

theorem Classifier.restores : Restores decode? encode id where
  back := by
    intro v c hv h
    simp only [decode?, Option.bind_eq_bind, Option.bind_eq_some_iff] at h ⊢
    obtain ⟨fields, hrecord, overlap, hoverlap, ignore, hignore, hc⟩ := h
    obtain rfl := Option.some.inj hc
    have hf := inRange_of_record? hv hrecord
    exact ⟨_, record?_of_sublist (.refl _) (by decide),
      _, restores_float.withDefault hf rfl hoverlap rfl,
      _, restores_bool.withDefault hf rfl hignore rfl, rfl⟩
  alike := fun _ => rfl

theorem Settings.restores : Restores decode? encode id where
  back := by
    intro v s hv h
    simp only [decode?, Option.bind_eq_bind, Option.bind_eq_some_iff] at h ⊢
    obtain ⟨fields, hrecord, main, hmain, indicator, hindicator, color, hcolor, lineWidth,
      hlineWidth, classifier, hclassifier, width, hwidth, hs⟩ := h
    obtain rfl := Option.some.inj hs
    have hf := inRange_of_record? hv hrecord
    exact ⟨_, record?_of_sublist (.refl _) (by decide),
      _, PaneConfig.restores.withDefault hf rfl hmain rfl,
      _, PaneConfig.restores.withDefault hf rfl hindicator rfl,
      _, restores_text.withDefault hf rfl hcolor rfl,
      _, restores_float.withDefault hf rfl hlineWidth rfl,
      _, Classifier.restores.withDefault hf rfl hclassifier rfl,
      _, (restores_natBelow _).withDefault hf rfl hwidth rfl, rfl⟩
  alike := fun _ => rfl

theorem Window.restores : Restores decode? encode id where
  back := by
    intro v w hv h
    simp only [decode?, Option.bind_eq_bind, Option.bind_eq_some_iff] at h ⊢
    obtain ⟨fields, hrecord, left, hleft, right, hright, hw⟩ := h
    obtain rfl := Option.some.inj hw
    have hf := inRange_of_record? hv hrecord
    exact ⟨_, record?_of_sublist (.refl _) (by decide),
      _, restores_float.required hf hleft rfl, _, restores_float.required hf hright rfl, rfl⟩
  alike := fun _ => rfl

/-! ## Documents -/

theorem Metadata.restores : Restores decode? encode id where
  back := by
    intro v m hv h
    simp only [decode?, Option.bind_eq_bind, Option.bind_eq_some_iff] at h ⊢
    obtain ⟨fields, hrecord, title, htitle, symbol, hsymbol, timeframe, htimeframe, strategy,
      hstrategy, timestamp, htimestamp, hm⟩ := h
    obtain rfl := Option.some.inj hm
    have hf := inRange_of_record? hv hrecord
    exact ⟨_, record?_of_sublist (.refl _) (by decide),
      _, restores_optionalText.withDefault hf rfl htitle rfl,
      _, restores_optionalText.withDefault hf rfl hsymbol rfl,
      _, restores_optionalText.withDefault hf rfl htimeframe rfl,
      _, restores_optionalText.withDefault hf rfl hstrategy rfl,
      _, restores_raw.withDefault hf rfl htimestamp rfl, rfl⟩
  alike := fun _ => rfl

/-- A chart document as it is read again. -/
def ChartDocument.reread (d : ChartDocument) : ChartDocument :=
  { d with indicators := d.indicators.mapEntries fun _ => Indicator.reread }

theorem ChartDocument.restores : Restores decode? encode reread where
  back := by
    intro v d hv h
    simp only [decode?, Option.bind_eq_bind, Option.bind_eq_some_iff] at h ⊢
    obtain ⟨fields, hrecord, candlestick, hcandlestick, indicators, hindicators, metadata,
      hmetadata, strategy, hstrategy, ui, hui, hd⟩ := h
    obtain rfl := Option.some.inj hd
    have hf := inRange_of_record? hv hrecord
    exact ⟨_, record?_of_sublist (.refl _) (by decide),
      _, RawCandle.restores.list_id.withDefault hf rfl hcandlestick rfl,
      _, Indicator.restores.map.withDefault hf rfl hindicators rfl,
      _, Metadata.restores.withDefault hf rfl hmetadata rfl,
      _, (StrategyReport.restores.nullable_id rfl).withDefault hf rfl hstrategy rfl,
      _, UiConfig.restores.withDefault hf rfl hui rfl, rfl⟩
  alike := by
    intro d
    have hindicators := Indicator.restores.map.alike d.indicators
    simp only [encode, reread, hindicators]

/-! ## All of them -/

/-- Whatever a tree is read as, it settles in its written form. The numbers in the tree are those
that a text can denote (`Json.inRange_of_read?`); of numbers beyond it would be false, as an integer
that is too large for a double has no written form. -/
theorem settles_of_inRange {v : Json} (hv : v.inRange = true) :
    Settles ChartDocument.decode? ChartDocument.encode v ∧
      Settles StrategyConfig.decode? StrategyConfig.encode v ∧
      Settles Settings.decode? Settings.encode v ∧
      Settles RawCandle.decode? RawCandle.encode v ∧
      Settles Candle.decode? Candle.encode v ∧
      Settles Indicator.decode? Indicator.encode v ∧
      Settles PlotPoint.decode? PlotPoint.encode v ∧
      Settles RenderPoint.decode? RenderPoint.encode v ∧
      Settles Trade.decode? Trade.encode v ∧
      Settles Metadata.decode? Metadata.encode v ∧
      Settles PaneConfig.decode? PaneConfig.encode v ∧
      Settles Window.decode? Window.encode v ∧
      Settles PlotKind.decode? PlotKind.encode v :=
  ⟨ChartDocument.restores.settles hv, StrategyConfig.restores.settles hv,
    Settings.restores.settles hv, RawCandle.restores.settles hv, Candle.restores.settles hv,
    Indicator.restores.settles hv, PlotPoint.restores.settles hv, RenderPoint.restores.settles hv,
    Trade.restores.settles hv, Metadata.restores.settles hv, PaneConfig.restores.settles hv,
    Window.restores.settles hv, PlotKind.restores.settles hv⟩

/-- An indicator in the form of an array, with a text for a value, a second name and a field that
nobody knows. -/
def looseIndicator : Json :=
  .arr [.arr [.obj [("time", .int 60000), ("value", .str "nan"), ("note", .null)]], .null, .null,
    .obj [("style", .str "histogram")]]

theorem settles_of_inRange_loose :
    looseIndicator.inRange = true ∧ (Indicator.decode? looseIndicator).isSome = true ∧
      Settles Indicator.decode? Indicator.encode looseIndicator :=
  ⟨rfl, rfl, (settles_of_inRange rfl).2.2.2.2.2.1⟩

end MarketChart
