import MarketChart.Trades.Table

/-!
# The total of the trade table

The table of a report has one row for every trade and then one for every open trade, numbered from
one. Its total is the net profit that the report states and the profits of the rows of its open
trades (`TradeTable.totalProfit_build`).

A trade can be open in two ways : it stands among the open trades of the report, or it stands among
the others and says so itself. Its row is valued at the last closing price in both cases, but the
total counts it in the first case only. So the total agrees with the open rows if no trade among the
others says that it is open, and else it may not (`TradeTable.total_without_open_row`).
-/

namespace MarketChart

/-! ## Rows -/

namespace StrategyReport

/-- A trade counts as open if it says so or stands among the open trades. -/
theorem getElem?_listed (r : StrategyReport) (i : Nat) :
    r.listed[i]? = (r.trades ++ r.openTrades)[i]?.map fun t =>
      (t, t.isOpen || decide (r.trades.length ≤ i)) := by
  rw [listed, List.getElem?_append, List.getElem?_append, List.length_map]
  split
  · next hlt => simp [Nat.not_le.2 hlt]
  · next hge => simp [Nat.not_lt.1 hge]

theorem length_listed (r : StrategyReport) :
    r.listed.length = r.trades.length + r.openTrades.length := by
  simp [listed]

end StrategyReport

namespace TradeTable

section

variable (r : StrategyReport) (candles : List Candle)

theorem rows_build : (build (some r) candles).rows = rowsOf candles r.listed := by
  simp only [build]
  split
  · next hempty =>
    rw [List.isEmpty_iff.1 hempty]
    rfl
  · rfl

/-- The row of each trade has its number. -/
theorem getElem?_rows_build (i : Nat) :
    (build (some r) candles).rows[i]? = (r.trades ++ r.openTrades)[i]?.map fun t =>
      t.row candles (i + 1) (t.isOpen || decide (r.trades.length ≤ i)) := by
  rw [rows_build, rowsOf, List.getElem?_mapIdx, r.getElem?_listed, Option.map_map]
  rfl

theorem length_rows_build :
    (build (some r) candles).rows.length = r.trades.length + r.openTrades.length := by
  rw [rows_build, rowsOf, List.length_mapIdx, r.length_listed]

/-- The rows after those of the trades are those of the open trades. -/
theorem drop_rows_build : (build (some r) candles).rows.drop r.trades.length =
      r.openTrades.mapIdx fun i t => t.row candles (r.trades.length + i + 1) true := by
  refine List.ext_getElem? fun i => ?_
  rw [List.getElem?_drop, getElem?_rows_build, List.getElem?_mapIdx,
    List.getElem?_append_right (by omega), Nat.add_sub_cancel_left]
  simp

/-- The rows of the trades are open where the trades say so. -/
theorem map_isOpen_take_rows_build :
    ((build (some r) candles).rows.take r.trades.length).map TradeRow.isOpen =
      r.trades.map Trade.isOpen := by
  refine List.ext_getElem? fun i => ?_
  rw [List.getElem?_map, List.getElem?_take, getElem?_rows_build, List.getElem?_map]
  split
  · next hlt =>
    rw [List.getElem?_append_left hlt, Option.map_map]
    simp [Function.comp_def, Trade.row, Nat.not_le.2 hlt]
  · next hge => simp [List.getElem?_eq_none (Nat.not_lt.1 hge)]

theorem numbers_build : (build (some r) candles).rows.map TradeRow.number =
      List.range' 1 (r.trades.length + r.openTrades.length) := by
  refine List.ext_getElem (by simp [length_rows_build]) fun i hi hi' => ?_
  have hrow := getElem?_rows_build r candles i
  rw [List.length_map] at hi
  rw [List.length_range', ← List.length_append] at hi'
  rw [List.getElem?_eq_getElem hi, List.getElem?_eq_getElem hi', Option.map_some,
    Option.some.injEq] at hrow
  rw [List.getElem_map, hrow, List.getElem_range', Nat.one_mul, Nat.add_comm]
  rfl

/-! ## Open rows -/

theorem filter_isOpen_drop_rows_build :
    ((build (some r) candles).rows.drop r.trades.length).filter TradeRow.isOpen =
      (build (some r) candles).rows.drop r.trades.length := by
  rw [drop_rows_build, List.filter_eq_self]
  intro row hrow
  obtain ⟨i, hi, rfl⟩ := List.mem_mapIdx.1 hrow
  rfl

/-- The open rows are those of the trades that say so and all those of the open trades. -/
theorem filter_isOpen_rows_build :
    (build (some r) candles).rows.filter TradeRow.isOpen =
      ((build (some r) candles).rows.take r.trades.length).filter TradeRow.isOpen ++
        (build (some r) candles).rows.drop r.trades.length := by
  have hsplit := congrArg (List.filter TradeRow.isOpen)
    (List.take_append_drop r.trades.length (build (some r) candles).rows)
  rw [List.filter_append, filter_isOpen_drop_rows_build] at hsplit
  exact hsplit.symm

theorem filter_isOpen_take_eq_nil_iff :
    ((build (some r) candles).rows.take r.trades.length).filter TradeRow.isOpen = [] ↔
      ∀ t ∈ r.trades, t.status ≠ some "open" := by
  have hmap := map_isOpen_take_rows_build r candles
  have hflags : (∀ row ∈ (build (some r) candles).rows.take r.trades.length,
      row.isOpen = false) ↔ ∀ t ∈ r.trades, t.isOpen = false := by
    rw [← List.forall_mem_map (P := (· = false)), hmap, List.forall_mem_map]
  simp only [List.filter_eq_nil_iff, Bool.not_eq_true, hflags, Trade.isOpen,
    beq_eq_false_iff_ne]

/-! ## Totals -/

/-- The profits of rows, added in the order of the rows; over no rows it is the negative zero. -/
def profitSum (rows : List TradeRow) : Float :=
  (rows.map TradeRow.profitValue).foldl (· + ·) (-0.0)

theorem totalProfit_eq (h : (build (some r) candles).rows ≠ []) :
    (build (some r) candles).totalProfit = r.netProfit.getD 0.0 +
      profitSum ((build (some r) candles).rows.drop r.trades.length) := by
  have hlisted : ¬r.listed.isEmpty = true := by
    rw [rows_build] at h
    intro hempty
    rw [List.isEmpty_iff.1 hempty] at h
    exact h rfl
  have hprofits : (r.openTrades.mapIdx fun i t =>
        t.row candles (r.trades.length + i + 1) true).map TradeRow.profitValue =
      r.openTrades.map (Trade.unrealizedProfit candles) := by
    refine List.ext_getElem? fun i => ?_
    simp only [List.getElem?_map, List.getElem?_mapIdx, Option.map_map]
    rfl
  rw [drop_rows_build, profitSum, hprofits]
  simp only [build, hlisted]
  rfl

end

/-- The table has one row for every trade and then one for every open trade, numbered from one, each
open if its trade says so or is one of the open trades. The total is the stated net profit and the
profits of the open trades' rows. These are all open, and they are all that is open exactly if no
other trade says that it is; then every open row is in the total once. -/
theorem totalProfit_build (r : StrategyReport) (candles : List Candle) :
    let table := build (some r) candles
    let counted := table.rows.drop r.trades.length
    table.rows.map TradeRow.number = List.range' 1 (r.trades.length + r.openTrades.length) ∧
    (∀ i : Nat, table.rows[i]? = (r.trades ++ r.openTrades)[i]?.map fun t =>
      t.row candles (i + 1) (t.status == some "open" || decide (r.trades.length ≤ i))) ∧
    table.rows.filter TradeRow.isOpen =
      (table.rows.take r.trades.length).filter TradeRow.isOpen ++ counted ∧
    (table.rows.filter TradeRow.isOpen = counted ↔ ∀ t ∈ r.trades, t.status ≠ some "open") ∧
    (table.rows ≠ [] → table.totalProfit = r.netProfit.getD 0.0 + profitSum counted) ∧
    (table.rows ≠ [] → (∀ t ∈ r.trades, t.status ≠ some "open") →
      table.totalProfit =
        r.netProfit.getD 0.0 + profitSum (table.rows.filter TradeRow.isOpen)) := by
  intro table counted
  have hopen : table.rows.filter TradeRow.isOpen = _ := filter_isOpen_rows_build r candles
  have hiff : table.rows.filter TradeRow.isOpen = counted ↔
      ∀ t ∈ r.trades, t.status ≠ some "open" := by
    rw [← filter_isOpen_take_eq_nil_iff r candles, hopen]
    exact List.append_left_eq_self
  refine ⟨numbers_build r candles, getElem?_rows_build r candles, hopen, hiff,
    totalProfit_eq r candles, fun hne hclosed => ?_⟩
  rw [hiff.2 hclosed]
  exact totalProfit_eq r candles hne

/-- A closed trade and an open one, sold short above the last closing price. -/
theorem totalProfit_build_short :
    let closed : Trade :=
      { direction := .long, entryPrice := 100.0, size := 1.0, profit := some 5.0 }
    let short : Trade := { direction := .short, entryPrice := 120.0, size := 2.0 }
    let r : StrategyReport := ⟨[closed], [short], some 5.0⟩
    let table := build (some r) [⟨0, 110.0, 110.0, 110.0, 110.0, 1.0⟩]
    table.rows.map TradeRow.isOpen = [false, true] ∧
    table.totalProfit = 5.0 + profitSum (table.rows.filter TradeRow.isOpen) ∧
    profitSum (table.rows.filter TradeRow.isOpen) = 20.0 := by
  intro closed short r table
  have htotal := (totalProfit_build r [⟨0, 110.0, 110.0, 110.0, 110.0, 1.0⟩]).2.2.2.2.2
  exact ⟨by decide, htotal (by decide) (by decide), by decide⟩

/-- A trade that says it is open but does not stand among the open trades is shown with ten dollars
of profit, and the total is zero. -/
theorem total_without_open_row :
    let t : Trade :=
      { direction := .long, entryPrice := 100.0, size := 1.0, status := some "open" }
    let r : StrategyReport := ⟨[t], [], none⟩
    let table := build (some r) [⟨0, 110.0, 110.0, 110.0, 110.0, 1.0⟩]
    table.rows.map TradeRow.isOpen = [true] ∧
    r.netProfit.getD 0.0 + profitSum (table.rows.filter TradeRow.isOpen) = 10.0 ∧
    table.totalProfit = 0.0 := by
  decide

end TradeTable

end MarketChart
