import OdooConnector.Library.Ranking
import OdooConnector.Library.Rounding
import OdooConnector.Library.Totals

/-!
# Top countries of the dashboard

The revenue of the orders is grouped by country and currency. Of the groups with the largest
amounts, whatever their currencies, the revenue of each country is converted and ranked by its
share.
-/

namespace OdooConnector.Order

/-- An order that the dashboard counts, with the country of its invoice address. -/
structure DashboardOrder (γ κ : Type) where
  country : Option γ
  currency : κ
  amountTotal : ℚ

/-- A row of the query of countries. -/
structure CountryRow (κ ν : Type) where
  countryName : ν
  currencyId : κ
  totalRevenue : ℚ
deriving DecidableEq

structure TopCountry (ν : Type) where
  name : ν
  percent : ℚ

/-- The currency of the company, `_convert` to it as of today, and the names of the countries in the
language of the user. -/
structure Dashboard (γ κ ν : Type) where
  currency : κ
  convert : κ → ℚ → ℚ
  countryName : γ → ν

variable {γ κ ν : Type} [DecidableEq κ] [DecidableEq ν]

namespace Dashboard

variable (dashboard : Dashboard γ κ ν) (orders : List (DashboardOrder γ κ))

def convertedAmount (currency : κ) (amount : ℚ) : ℚ :=
  if currency ≠ dashboard.currency then dashboard.convert currency amount else amount

/-- The first query, and the loop over its rows. -/
def totalRevenueAll : ℚ :=
  ((orders.map DashboardOrder.currency).dedup.map fun currency =>
    dashboard.convertedAmount currency
      ((orders.filter fun order => order.currency = currency).map
        DashboardOrder.amountTotal).sum).sum

/-- The groups of the second query. -/
def countryRows [DecidableEq γ] : List (CountryRow κ ν) :=
  (orders.filterMap fun order => order.country.map fun country =>
    (country, order.currency)).dedup.map fun group =>
      { countryName := dashboard.countryName group.1
        currencyId := group.2
        totalRevenue := ((orders.filter fun order =>
          order.country = some group.1 ∧ order.currency = group.2).map
            DashboardOrder.amountTotal).sum }

/-- The groups by descending sums. The database may order groups of one sum in any way. -/
def Answers [DecidableEq γ] (rows : List (CountryRow κ ν)) : Prop :=
  rows.Perm (dashboard.countryRows orders) ∧
    rows.Pairwise fun first second => second.totalRevenue ≤ first.totalRevenue

def countryMap (rows : List (CountryRow κ ν)) : Dict ν (Dict κ ℚ) :=
  Dict.updateAll CountryRow.countryName
    (fun row data => (data.getD ∅).update row.currencyId fun revenue =>
      revenue.getD 0 + row.totalRevenue) ∅ rows

def countryTotalConverted (data : Dict κ ℚ) : ℚ :=
  (data.entries.map fun entry => dashboard.convertedAmount entry.1 entry.2).sum

/-- The share of a revenue in a total, in percent. -/
def percentOf (revenue total : ℚ) : ℚ :=
  roundDigits 2 (if 0 < total then revenue / total * 100 else 0)

def countriesData (total : ℚ) (rows : List (CountryRow κ ν)) : List (TopCountry ν) :=
  (countryMap rows).entries.map fun entry =>
    ⟨entry.1, percentOf (dashboard.countryTotalConverted entry.2) total⟩

/-- `_integration_dashboard_get_top_countries`, where the second query has these rows without its
limit. -/
def integrationDashboardGetTopCountries (rows : List (CountryRow κ ν)) (limit : ℕ) :
    List (TopCountry ν) :=
  let total := dashboard.totalRevenueAll orders
  if total = 0 then []
  else ((dashboard.countriesData total (rows.take (limit * 5))).mergeSort
    fun first second => second.percent ≤ first.percent).take limit

/-! ### Revenues -/

/-- The converted revenue of a country, over all its currencies. -/
def revenue (rows : List (CountryRow κ ν)) (name : ν) : ℚ :=
  let ofCountry := rows.filter fun row => row.countryName = name
  ∑ currency ∈ (ofCountry.map CountryRow.currencyId).toFinset,
    dashboard.convertedAmount currency
      ((ofCountry.filter fun row => row.currencyId = currency).map CountryRow.totalRevenue).sum

/-- Each order with a country as a row of its own. -/
def orderRows : List (CountryRow κ ν) :=
  orders.filterMap fun order => order.country.map fun country =>
    ⟨dashboard.countryName country, order.currency, order.amountTotal⟩

def names (rows : List (CountryRow κ ν)) : Finset ν := (rows.map CountryRow.countryName).toFinset

/-- As many countries as there may be, the ones with the largest revenues, with their shares. -/
structure Top (limit : ℕ) (result : List (TopCountry ν)) : Prop where
  size : result.length = min limit (names (dashboard.orderRows orders)).card
  distinct : (result.map TopCountry.name).Nodup
  known : ∀ top ∈ result, top.name ∈ names (dashboard.orderRows orders)
  largest : ∀ top ∈ result, ∀ other ∈ names (dashboard.orderRows orders),
    other ∉ result.map TopCountry.name →
      dashboard.revenue (dashboard.orderRows orders) other ≤
        dashboard.revenue (dashboard.orderRows orders) top.name
  percent : ∀ top ∈ result, top.percent = roundDigits 2
    (dashboard.revenue (dashboard.orderRows orders) top.name /
      dashboard.totalRevenueAll orders * 100)

/-! ### What the loops compute -/

theorem countryTotalConverted_eq {rows : List (CountryRow κ ν)} {name : ν} {data : Dict κ ℚ}
    (stored : (countryMap rows).get? name = some data) :
    dashboard.countryTotalConverted data = dashboard.revenue rows name := by
  rw [countryMap, Dict.get?_updateAll_nested CountryRow.countryName CountryRow.currencyId
    fun row (revenue : Option ℚ) => revenue.getD 0 + row.totalRevenue] at stored
  rw [revenue]
  generalize rows.filter (fun row => row.countryName = name) = ofCountry at stored ⊢
  split at stored
  · contradiction
  · obtain rfl := Option.some.inj stored
    have currencies : (Dict.updateAll CountryRow.currencyId
        (fun row (revenue : Option ℚ) => revenue.getD 0 + row.totalRevenue) ∅
        ofCountry).keys.toFinset = (ofCountry.map CountryRow.currencyId).toFinset := by
      ext currency
      rw [List.mem_toFinset, List.mem_toFinset, Dict.mem_keys_updateAll, List.mem_map]
      exact or_iff_right List.not_mem_nil
    rw [countryTotalConverted]
    refine (Dict.total_eq_sum dashboard.convertedAmount _).trans ?_
    rw [currencies]
    refine Finset.sum_congr rfl fun currency listed => ?_
    obtain ⟨row, member, same⟩ := List.mem_map.mp (List.mem_toFinset.mp listed)
    have nonempty : (ofCountry.filter fun row => row.currencyId = currency) ≠ [] :=
      List.ne_nil_of_mem (List.mem_filter.mpr ⟨member, decide_eq_true same⟩)
    rw [Dict.share, Dict.get?_updateAll_add CountryRow.currencyId CountryRow.totalRevenue,
      if_neg nonempty, Option.elim_some]

/-- The rounded share of a country in the rows. -/
def shownPercent (total : ℚ) (rows : List (CountryRow κ ν)) (name : ν) : ℚ :=
  percentOf (dashboard.revenue rows name) total

theorem countriesData_eq (total : ℚ) (rows : List (CountryRow κ ν)) :
    dashboard.countriesData total rows =
      (countryMap rows).keys.map fun name => ⟨name, dashboard.shownPercent total rows name⟩ := by
  rw [countriesData, Dict.keys, List.map_map]
  refine List.map_congr_left fun entry member => ?_
  have stored := (Dict.get?_eq_some_iff (countryMap rows) entry.1 entry.2).mpr member
  rw [Function.comp_apply, countryTotalConverted_eq dashboard stored, shownPercent]

theorem sort_countriesData (total : ℚ) (rows : List (CountryRow κ ν)) :
    ((dashboard.countriesData total rows).mergeSort
      fun first second => second.percent ≤ first.percent) =
      (ranking (dashboard.shownPercent total rows) (countryMap rows).keys).map
        fun name => ⟨name, dashboard.shownPercent total rows name⟩ := by
  rw [countriesData_eq, ranking]
  refine (List.map_mergeSort ?_).symm
  intro first _ second _
  rfl

end Dashboard

end OdooConnector.Order
