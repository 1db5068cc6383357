import MarketChart.Document.Chart
import MarketChart.Proofs.LooseSamples

/-!
# Replacing a sample in a document

The value of a sample and the fields of a price record take anything, so whatever stands there the
document is read. Here is what becomes of a document when one such place is given another value: the
one sample or the one record changes, at that place alone, and all else is read as before
(`ChartDocument.replacement_is_local`). The rest of the document is strict: a sample whose time is
no integer makes all of it unreadable.
-/

namespace MarketChart

/-! ## Values of any kind -/

namespace Json

/-- What is kept of a value of any kind; `null` is an absent one. -/
def kept : Json → Option Json
  | .null => none
  | v => some v.normal

theorem raw?_of_sound {w : Json} (hw : w.sound = true) : w.raw? = some w.kept := by
  unfold raw?
  rw [if_pos hw]
  cases w <;> rfl

theorem lenient?_of_sound {w : Json} (hw : w.sound = true) : w.lenient? = some w.number? := by
  rw [lenient?, raw?_of_sound hw, Option.map_some]
  unfold kept
  split
  · rfl
  · rw [Option.bind_some, number?_normal]

theorem Fields.withDefault_of_lookup {α : Type} {fields : Fields} {name : String} {v : Json}
    (h : fields.lookup name = some v) (decode : Json → Option α) (default : α) :
    fields.withDefault name decode default = decode v := by
  unfold withDefault
  rw [h]

/-- A field with a default is read as before where the same is found for it. -/
theorem Fields.withDefault_congr {α : Type} {fields fields' : Fields} {name : String}
    (h : fields'.lookup name = fields.lookup name) (decode : Json → Option α) (default : α) :
    fields'.withDefault name decode default = fields.withDefault name decode default := by
  unfold withDefault
  rw [h]

end Json

/-! ## Samples and records -/

/-- A sample that is an object takes any value. -/
theorem Sample.decode?_withEntry {entries : List (String × Json)} {s : Sample} {w : Json}
    (h : decode? (.obj entries) = some s) (hw : w.sound = true) :
    decode? (.obj (Json.withEntry "value" w entries)) = some { s with value := w.number? } := by
  simp only [decode?, Option.bind_eq_bind, Option.bind_eq_some_iff] at h ⊢
  obtain ⟨fields, hrecord, time, htime, value, hvalue, visible, hvisible, tint, htint, hs⟩ := h
  obtain rfl := Option.some.inj hs
  obtain ⟨fields', hrecord', hlookup⟩ := Json.record?_withEntry "value" w hrecord
  have hvalue' : fields'.withDefault "value" Json.lenient? none = some w.number? :=
    (Json.Fields.withDefault_of_lookup (hlookup "value" (by decide)) ..).trans
      (Json.lenient?_of_sound hw)
  refine ⟨fields', hrecord', time, ?_, w.number?, hvalue', visible, ?_, tint, ?_, rfl⟩
  · rw [← htime, Json.Fields.required, hlookup "time" (by decide)]
    rfl
  · rw [← hvisible]
    exact Json.Fields.withDefault_congr (hlookup "visible" (by decide)) ..
  · rw [← htint]
    exact Json.Fields.withDefault_congr (hlookup "options" (by decide)) ..

namespace RawCandle

/-- The record with another value for the field of a name; other names leave it as it is. -/
def withField (r : RawCandle) (name : String) (value : Option Json) : RawCandle where
  openTime := if name = "openTime" then value else r.openTime
  time := if name = "time" then value else r.time
  opening := if name = "open" then value else r.opening
  high := if name = "high" then value else r.high
  low := if name = "low" then value else r.low
  closing := if name = "close" then value else r.closing
  volume := if name = "volume" then value else r.volume

/-- A record that is an object takes any value for any field. -/
theorem decode?_withEntry {entries : List (String × Json)} {r : RawCandle} {w : Json}
    (h : decode? (.obj entries) = some r) (hw : w.sound = true) (name : String) :
    decode? (.obj (Json.withEntry name w entries)) = some (r.withField name w.kept) := by
  simp only [decode?, Option.bind_eq_bind, Option.bind_eq_some_iff] at h ⊢
  obtain ⟨fields, hrecord, openTime, hopenTime, time, htime, opening, hopening, high, hhigh, low,
    hlow, closing, hclosing, volume, hvolume, hr⟩ := h
  obtain rfl := Option.some.inj hr
  obtain ⟨fields', hrecord', hlookup⟩ := Json.record?_withEntry name w hrecord
  have hfield : ∀ other ∈ ["openTime", "time", "open", "high", "low", "close", "volume"],
      ∀ x, fields.withDefault other Json.raw? none = some x →
        fields'.withDefault other Json.raw? none = some (if name = other then w.kept else x) := by
    intro other hother x hx
    have hfound := hlookup other hother
    by_cases hname : other = name
    · rw [if_pos hname] at hfound
      rw [if_pos hname.symm, Json.Fields.withDefault_of_lookup hfound, Json.raw?_of_sound hw]
    · rw [if_neg hname] at hfound
      rw [if_neg (Ne.symm hname), ← hx, Json.Fields.withDefault_congr hfound]
  exact ⟨fields', hrecord', _, hfield _ (by simp) _ hopenTime, _, hfield _ (by simp) _ htime,
    _, hfield _ (by simp) _ hopening, _, hfield _ (by simp) _ hhigh, _, hfield _ (by simp) _ hlow,
    _, hfield _ (by simp) _ hclosing, _, hfield _ (by simp) _ hvolume, rfl⟩

end RawCandle

/-! ## Where they stand in a document -/

namespace Indicator

/-- The samples of an indicator, in its tree. -/
def samplesTree : Part Json Json := Json.field ["data", "pane", "title", "style"] "data"

/-- The samples of an indicator. -/
def samples : Part Indicator (List Sample) := ⟨fun i => some i.data, fun i data => { i with data }⟩

theorem readsPart_samples :
    ReadsPart decode? (Json.list? Sample.decode?) samplesTree samples := by
  intro v i x hi hx
  simp only [decode?, Option.bind_eq_bind, Option.bind_eq_some_iff] at hi ⊢
  obtain ⟨fields, hrecord, data, hdata, pane, hpane, title, htitle, style, hstyle, hi⟩ := hi
  obtain rfl := Option.some.inj hi
  obtain ⟨hx, hput⟩ := Json.record?_put_field (by decide) hrecord hx
  rw [Json.Fields.withDefault_of_lookup hx] at hdata
  refine ⟨data, hdata, rfl, fun y c hy => ?_⟩
  obtain ⟨fields', hrecord', hlookup⟩ := hput y
  have hdata' : fields'.withDefault "data" (Json.list? Sample.decode?) [] = some c :=
    (Json.Fields.withDefault_of_lookup (hlookup "data") ..).trans hy
  exact ⟨fields', hrecord', c, hdata',
    pane, hpane ▸ Json.Fields.withDefault_congr (hlookup "pane") ..,
    title, htitle ▸ Json.Fields.withDefault_congr (hlookup "title") ..,
    style, hstyle ▸ Json.Fields.withDefault_congr (hlookup "style") .., rfl⟩

end Indicator

namespace ChartDocument

/-- The names of the fields of a document, in the order they are declared. -/
def fieldNames : List String := ["candlestick", "indicators", "metadata", "strategy", "ui"]

/-- A document is read field by field. -/
theorem decode?_eq_some_iff {v : Json} {d : ChartDocument} : decode? v = some d ↔
    ∃ fields, v.record? fieldNames = some fields ∧
      fields.withDefault "candlestick" (Json.list? RawCandle.decode?) [] = some d.candlestick ∧
      fields.withDefault "indicators" (Json.map? Indicator.decode?) .empty = some d.indicators ∧
      fields.withDefault "metadata" Metadata.decode? {} = some d.metadata ∧
      fields.optional "strategy" StrategyReport.decode? = some d.strategy ∧
      fields.withDefault "ui" UiConfig.decode? {} = some d.ui := by
  simp only [decode?, Option.bind_eq_bind, Option.bind_eq_some_iff]
  constructor
  · rintro ⟨fields, hrecord, _, hcandlestick, _, hindicators, _, hmetadata, _, hstrategy, _, hui,
      hd⟩
    obtain rfl := Option.some.inj hd
    exact ⟨fields, hrecord, hcandlestick, hindicators, hmetadata, hstrategy, hui⟩
  · rintro ⟨fields, hrecord, hcandlestick, hindicators, hmetadata, hstrategy, hui⟩
    exact ⟨fields, hrecord, _, hcandlestick, _, hindicators, _, hmetadata, _, hstrategy, _, hui,
      rfl⟩

/-- The price records of a document. -/
def records : Part ChartDocument (List RawCandle) :=
  ⟨fun d => some d.candlestick, fun d candlestick => { d with candlestick }⟩

/-- The indicators of a document. -/
def keyed : Part ChartDocument (KeyMap Indicator) :=
  ⟨fun d => some d.indicators, fun d indicators => { d with indicators }⟩

theorem readsPart_records : ReadsPart decode? (Json.list? RawCandle.decode?)
    (Json.field fieldNames "candlestick") records := by
  intro v d x hd hx
  obtain ⟨fields, hrecord, hcandlestick, hindicators, hmetadata, hstrategy, hui⟩ :=
    decode?_eq_some_iff.1 hd
  obtain ⟨hx, hput⟩ := Json.record?_put_field (by decide) hrecord hx
  rw [Json.Fields.withDefault_of_lookup hx] at hcandlestick
  refine ⟨_, hcandlestick, rfl, fun y c hy => ?_⟩
  obtain ⟨fields', hrecord', hlookup⟩ := hput y
  exact decode?_eq_some_iff.2 ⟨fields', hrecord',
    (Json.Fields.withDefault_of_lookup (hlookup "candlestick") ..).trans hy,
    hindicators ▸ Json.Fields.withDefault_congr (hlookup "indicators") ..,
    hmetadata ▸ Json.Fields.withDefault_congr (hlookup "metadata") ..,
    hstrategy ▸ Json.Fields.withDefault_congr (hlookup "strategy") ..,
    hui ▸ Json.Fields.withDefault_congr (hlookup "ui") ..⟩

theorem readsPart_keyed : ReadsPart decode? (Json.map? Indicator.decode?)
    (Json.field fieldNames "indicators") keyed := by
  intro v d x hd hx
  obtain ⟨fields, hrecord, hcandlestick, hindicators, hmetadata, hstrategy, hui⟩ :=
    decode?_eq_some_iff.1 hd
  obtain ⟨hx, hput⟩ := Json.record?_put_field (by decide) hrecord hx
  rw [Json.Fields.withDefault_of_lookup hx] at hindicators
  refine ⟨_, hindicators, rfl, fun y c hy => ?_⟩
  obtain ⟨fields', hrecord', hlookup⟩ := hput y
  exact decode?_eq_some_iff.2 ⟨fields', hrecord',
    hcandlestick ▸ Json.Fields.withDefault_congr (hlookup "candlestick") ..,
    (Json.Fields.withDefault_of_lookup (hlookup "indicators") ..).trans hy,
    hmetadata ▸ Json.Fields.withDefault_congr (hlookup "metadata") ..,
    hstrategy ▸ Json.Fields.withDefault_congr (hlookup "strategy") ..,
    hui ▸ Json.Fields.withDefault_congr (hlookup "ui") ..⟩

/-- The tree of a sample of an indicator, by its key and position. -/
def sampleTree (key : String) (i : Nat) : Part Json Json :=
  (((Json.field fieldNames "indicators").comp (Json.entry key)).comp Indicator.samplesTree).comp
    (Json.item i)

/-- The tree of a price record, by its position. -/
def recordTree (i : Nat) : Part Json Json :=
  (Json.field fieldNames "candlestick").comp (Json.item i)

theorem readsPart_sample (key : String) (i : Nat) : ReadsPart decode? Sample.decode?
    (sampleTree key i) (((keyed.comp (.value key)).comp Indicator.samples).comp (.item i)) :=
  ((readsPart_keyed.comp (.value _ key)).comp Indicator.readsPart_samples).comp (.item _ i)

theorem readsPart_record (i : Nat) :
    ReadsPart decode? RawCandle.decode? (recordTree i) (records.comp (.item i)) :=
  readsPart_records.comp (.item _ i)

/-- A tree that is read as a document is still read when the value of a sample, or any entry of a
price record, is given any value at all. Of the document only that one value changes, to the number
that the new one denotes if it denotes one, and only that field of that one record. -/
theorem replacement_is_local {v : Json} {d : ChartDocument} (hd : decode? v = some d) {w : Json}
    (hw : w.sound = true) :
    (∀ key i entries, (sampleTree key i).get? v = some (.obj entries) →
      ∃ ind s, d.indicators.find? key = some ind ∧ ind.data[i]? = some s ∧
        decode? ((sampleTree key i).put v (.obj (Json.withEntry "value" w entries))) =
          some { d with
            indicators := d.indicators.insert key
              { ind with data := ind.data.set i { s with value := w.number? } } }) ∧
      (∀ x, w.number? = some x ↔ w.Denotes x) ∧
      ∀ i name entries, (recordTree i).get? v = some (.obj entries) →
        ∃ r, d.candlestick[i]? = some r ∧
          decode? ((recordTree i).put v (.obj (Json.withEntry name w entries))) =
            some { d with candlestick := d.candlestick.set i (r.withField name w.kept) } := by
  refine ⟨fun key i entries hget => ?_, fun x => Json.number?_eq_some_iff,
    fun i name entries hget => ?_⟩
  · obtain ⟨s, hs, hsample, hput⟩ := readsPart_sample key i hd hget
    have hput := hput (Sample.decode?_withEntry hs hw)
    cases hind : d.indicators.find? key with
    | none => simp [Part.comp, keyed, Part.value, hind] at hsample
    | some ind =>
      refine ⟨ind, s, rfl, ?_, hput.trans ?_⟩
      · simpa [Part.comp, keyed, Part.value, Indicator.samples, Part.item, hind] using hsample
      · simp [Part.comp, keyed, Part.value, Indicator.samples, Part.item, hind]
  · obtain ⟨r, hr, hrecord, hput⟩ := readsPart_record i hd hget
    refine ⟨r, by simpa [Part.comp, records, Part.item] using hrecord,
      (hput (RawCandle.decode?_withEntry hr hw name)).trans ?_⟩
    simp [Part.comp, records, Part.item]

/-- A record without a time and, in the form of an array, an indicator with one sample. -/
def smallTree : Json :=
  .obj [("candlestick", .arr [.obj [("open", .int 10)]]),
    ("indicators", .obj [("rsi", .arr [.arr [.obj [("time", .int 60000), ("value", .int 50)]]])])]

def smallDocument : ChartDocument where
  candlestick := [{ opening := some (.int 10) }]
  indicators := KeyMap.empty.insert "rsi" { data := [{ time := 60000, value := some 50.0 }] }

/-- An object in the place of a number. -/
def badValue : Json := .obj [("bad", .bool true)]

theorem replacement_is_local_small :
    decode? smallTree = some smallDocument ∧ badValue.sound = true ∧ badValue.number? = none ∧
      (sampleTree "rsi" 0).get? smallTree =
        some (.obj [("time", .int 60000), ("value", .int 50)]) ∧
      (∃ ind s, smallDocument.indicators.find? "rsi" = some ind ∧ ind.data[0]? = some s ∧
        decode? ((sampleTree "rsi" 0).put smallTree (.obj (Json.withEntry "value" badValue
            [("time", .int 60000), ("value", .int 50)]))) =
          some { smallDocument with
            indicators := smallDocument.indicators.insert "rsi"
              { ind with data := ind.data.set 0 { s with value := badValue.number? } } }) ∧
      (recordTree 0).get? smallTree = some (.obj [("open", .int 10)]) ∧
      ∃ r, smallDocument.candlestick[0]? = some r ∧
        decode? ((recordTree 0).put smallTree
            (.obj (Json.withEntry "openTime" badValue [("open", .int 10)]))) =
          some { smallDocument with
            candlestick := smallDocument.candlestick.set 0
              (r.withField "openTime" badValue.kept) } := by
  have hd : decode? smallTree = some smallDocument := rfl
  have hw : badValue.sound = true := rfl
  have hsample : (sampleTree "rsi" 0).get? smallTree =
      some (.obj [("time", .int 60000), ("value", .int 50)]) := rfl
  have hrecord : (recordTree 0).get? smallTree = some (.obj [("open", .int 10)]) := rfl
  obtain ⟨hsamples, -, hrecords⟩ := replacement_is_local hd hw
  exact ⟨hd, hw, rfl, hsample, hsamples "rsi" 0 _ hsample, hrecord,
    hrecords 0 "openTime" _ hrecord⟩

end ChartDocument

end MarketChart
