import Mathlib.Data.Finset.Card
import OdooConnector.Library.Grouping
import OdooConnector.Order.TopCountries

/-!
# Countries with the largest revenue

The rows that the limit of the query leaves decide on the countries of the dashboard. These are the
ones of the largest revenue where what is cut off changes neither a share nor the ranking.
-/

namespace OdooConnector.Order.Dashboard

variable {γ κ ν : Type}

theorem mem_orderRows_iff {dashboard : Dashboard γ κ ν} {orders : List (DashboardOrder γ κ)}
    {row : CountryRow κ ν} :
    row ∈ dashboard.orderRows orders ↔ ∃ order ∈ orders, ∃ country, order.country = some country ∧
      row = ⟨dashboard.countryName country, order.currency, order.amountTotal⟩ := by
  rw [orderRows, List.mem_filterMap]
  simp only [Option.map_eq_some_iff]
  constructor
  · rintro ⟨order, member, country, found, rfl⟩
    exact ⟨order, member, country, found, rfl⟩
  · rintro ⟨order, member, country, found, rfl⟩
    exact ⟨order, member, country, found, rfl⟩

theorem mem_names_iff [DecidableEq ν] {rows : List (CountryRow κ ν)} {name : ν} :
    name ∈ names rows ↔ ∃ row ∈ rows, row.countryName = name := by
  rw [names, List.mem_toFinset, List.mem_map]

/-- The rows that the limit of the query leaves. -/
def shown (rows : List (CountryRow κ ν)) (limit : ℕ) : List (CountryRow κ ν) :=
  rows.take (limit * 5)

theorem names_shown_subset [DecidableEq ν] {rows : List (CountryRow κ ν)} {limit : ℕ} :
    names (shown rows limit) ⊆ names rows := by
  intro name member
  obtain ⟨row, listed, same⟩ := mem_names_iff.mp member
  exact mem_names_iff.mpr ⟨row, List.mem_of_mem_take listed, same⟩

variable [DecidableEq κ] [DecidableEq ν] (dashboard : Dashboard γ κ ν)
  (orders : List (DashboardOrder γ κ)) (rows : List (CountryRow κ ν)) (limit : ℕ)

/-- By the rounded shares in the rows that are left, fewer countries than the limit stand ahead. Of
countries with one share, the one with the earlier row is ahead. -/
def Leads (name : ν) : Prop :=
  let countries := (countryMap (shown rows limit)).keys
  let percent := dashboard.shownPercent (dashboard.totalRevenueAll orders) (shown rows limit)
  name ∈ countries ∧
    (countries.filter fun other => Ahead percent countries other name).length < limit

/-- The rows that are left have enough countries, whose shares they show, and no country with a
larger revenue than a leading one falls behind. -/
def RowsSuffice : Prop :=
  min limit (names (dashboard.orderRows orders)).card ≤ (names (shown rows limit)).card ∧
  (∀ name, dashboard.Leads orders rows limit name →
    dashboard.shownPercent (dashboard.totalRevenueAll orders) (shown rows limit) name =
      roundDigits 2 (dashboard.revenue (dashboard.orderRows orders) name /
        dashboard.totalRevenueAll orders * 100)) ∧
  ∀ name ∈ names (dashboard.orderRows orders), ∀ other,
    dashboard.revenue (dashboard.orderRows orders) other <
      dashboard.revenue (dashboard.orderRows orders) name →
    dashboard.Leads orders rows limit other → dashboard.Leads orders rows limit name

variable {dashboard orders rows limit}

/-! ### Names -/

theorem mem_keys_countryMap_iff {name : ν} : name ∈ (countryMap rows).keys ↔ name ∈ names rows := by
  rw [countryMap, Dict.mem_keys_updateAll, mem_names_iff]
  exact or_iff_right List.not_mem_nil

theorem length_keys_countryMap : (countryMap rows).keys.length = (names rows).card := by
  have same : (countryMap rows).keys.toFinset = names rows := by
    ext name
    rw [List.mem_toFinset, mem_keys_countryMap_iff]
  rw [← same, List.toFinset_card_of_nodup (countryMap rows).nodup_keys]

/-- The rows of the query have the countries of the orders. -/
theorem names_answer [DecidableEq γ] (answers : dashboard.Answers orders rows) :
    names rows = names (dashboard.orderRows orders) := by
  ext name
  simp only [mem_names_iff, mem_orderRows_iff, answers.1.mem_iff, countryRows, List.mem_map,
    List.mem_dedup, List.mem_filterMap, Option.map_eq_some_iff]
  constructor
  · rintro ⟨_, ⟨_, ⟨order, member, country, found, rfl⟩, rfl⟩, rfl⟩
    exact ⟨_, ⟨order, member, country, found, rfl⟩, rfl⟩
  · rintro ⟨_, ⟨order, member, country, found, rfl⟩, rfl⟩
    exact ⟨_, ⟨_, ⟨order, member, country, found, rfl⟩, rfl⟩, rfl⟩

/-! ### The result -/

theorem result_of_nonzero (nonzero : dashboard.totalRevenueAll orders ≠ 0) :
    dashboard.integrationDashboardGetTopCountries orders rows limit =
      ((ranking (dashboard.shownPercent (dashboard.totalRevenueAll orders) (shown rows limit))
        (countryMap (shown rows limit)).keys).take limit).map fun name =>
          ⟨name, dashboard.shownPercent (dashboard.totalRevenueAll orders)
            (shown rows limit) name⟩ := by
  rw [integrationDashboardGetTopCountries, if_neg nonzero, sort_countriesData, List.map_take]
  rfl

theorem length_result (nonzero : dashboard.totalRevenueAll orders ≠ 0) :
    (dashboard.integrationDashboardGetTopCountries orders rows limit).length =
      min limit (names (shown rows limit)).card := by
  rw [result_of_nonzero nonzero, List.length_map, List.length_take, (ranking_perm _ _).length_eq,
    length_keys_countryMap]

theorem names_result (nonzero : dashboard.totalRevenueAll orders ≠ 0) :
    (dashboard.integrationDashboardGetTopCountries orders rows limit).map TopCountry.name =
      (ranking (dashboard.shownPercent (dashboard.totalRevenueAll orders) (shown rows limit))
        (countryMap (shown rows limit)).keys).take limit := by
  rw [result_of_nonzero nonzero, List.map_map]
  exact List.map_id _

theorem mem_names_result_iff (nonzero : dashboard.totalRevenueAll orders ≠ 0) {name : ν} :
    name ∈ (dashboard.integrationDashboardGetTopCountries orders rows limit).map TopCountry.name ↔
      dashboard.Leads orders rows limit name := by
  rw [names_result nonzero, mem_take_ranking_iff (Dict.nodup_keys _)]
  rfl

theorem percent_of_mem (nonzero : dashboard.totalRevenueAll orders ≠ 0) {top : TopCountry ν}
    (member : top ∈ dashboard.integrationDashboardGetTopCountries orders rows limit) :
    top.percent =
      dashboard.shownPercent (dashboard.totalRevenueAll orders) (shown rows limit) top.name := by
  rw [result_of_nonzero nonzero] at member
  obtain ⟨name, -, rfl⟩ := List.mem_map.mp member
  rfl

/-- A country that leads is one of the rows. -/
theorem Leads.known {name : ν} (leads : dashboard.Leads orders rows limit name) :
    name ∈ names (shown rows limit) :=
  mem_keys_countryMap_iff.mp leads.1

theorem top_iff_rowsSuffice [DecidableEq γ] (answers : dashboard.Answers orders rows)
    (nonzero : dashboard.totalRevenueAll orders ≠ 0) :
    dashboard.Top orders limit (dashboard.integrationDashboardGetTopCountries orders rows limit) ↔
      dashboard.RowsSuffice orders rows limit := by
  have known : names (shown rows limit) ⊆ names (dashboard.orderRows orders) :=
    names_answer answers ▸ names_shown_subset
  have fewer := Finset.card_le_card known
  constructor
  · intro top
    have size := (length_result nonzero).symm.trans top.size
    refine ⟨by omega, fun name leads => ?_, fun name listed other larger leads => ?_⟩
    · have member := (mem_names_result_iff nonzero).mpr leads
      obtain ⟨country, returned, rfl⟩ := List.mem_map.mp member
      rw [← percent_of_mem nonzero returned]
      exact top.percent country returned
    · -- A country that is left out has no larger revenue than one that is returned.
      by_contra behind
      have out := (mem_names_result_iff nonzero).not.mpr behind
      have member := (mem_names_result_iff nonzero).mpr leads
      obtain ⟨country, returned, rfl⟩ := List.mem_map.mp member
      exact absurd larger (not_lt.mpr (top.largest country returned name listed out))
  · rintro ⟨enough, shares, ranked⟩
    refine ⟨?_, ?_, fun top member => ?_, fun top member other listed out => ?_,
      fun top member => ?_⟩
    · rw [length_result nonzero]
      omega
    · rw [names_result nonzero]
      exact ((ranking_perm _ _).nodup_iff.mpr (Dict.nodup_keys _)).sublist (List.take_sublist _ _)
    · have leads := (mem_names_result_iff nonzero).mp (List.mem_map_of_mem member)
      exact known leads.known
    · have leads := (mem_names_result_iff nonzero).mp (List.mem_map_of_mem member)
      have behind := (mem_names_result_iff nonzero).not.mp out
      by_contra larger
      exact behind (ranked other listed top.name (not_le.mp larger) leads)
    · have leads := (mem_names_result_iff nonzero).mp (List.mem_map_of_mem member)
      rw [percent_of_mem nonzero member]
      exact shares top.name leads

theorem orderRows_amounts (name : ν) (currency : κ) :
    ((dashboard.orderRows orders).filter fun row =>
      row.countryName = name ∧ row.currencyId = currency).map CountryRow.totalRevenue =
    (orders.filter fun order => ∃ country ∈ order.country,
      dashboard.countryName country = name ∧ order.currency = currency).map
        DashboardOrder.amountTotal := by
  induction orders with
  | nil => rfl
  | cons order orders induction =>
      rw [orderRows] at induction ⊢
      cases found : order.country with
      | none =>
          rw [List.filterMap_cons_none (by rw [found, Option.map_none]), List.filter_cons_of_neg
            (by simp [found])]
          exact induction
      | some country =>
          rw [List.filterMap_cons_some (by rw [found, Option.map_some])]
          by_cases counted : dashboard.countryName country = name ∧ order.currency = currency
          · rw [List.filter_cons_of_pos (by simpa using counted), List.filter_cons_of_pos
              (by simpa [found] using counted), List.map_cons, List.map_cons, induction]
          · rw [List.filter_cons_of_neg (by simpa using counted), List.filter_cons_of_neg
              (by simpa [found] using counted), induction]

/-- The group that an order is counted in. -/
def group (order : DashboardOrder γ κ) : Option (γ × κ) :=
  order.country.map fun country => (country, order.currency)

theorem group_eq_some_iff {order : DashboardOrder γ κ} {key : γ × κ} :
    group order = some key ↔ order.country = some key.1 ∧ order.currency = key.2 := by
  cases found : order.country <;> simp [group, found, Prod.ext_iff]

variable (dashboard orders) in
/-- The groups of the countries of a name, in one currency. -/
def groupsOf [DecidableEq γ] (name : ν) (currency : κ) : List (γ × κ) :=
  (orders.filterMap group).dedup.filter fun key =>
    dashboard.countryName key.1 = name ∧ key.2 = currency

theorem group_mem_groupsOf_iff [DecidableEq γ] {name : ν} {currency : κ}
    {order : DashboardOrder γ κ} (member : order ∈ orders) :
    group order ∈ (dashboard.groupsOf orders name currency).map some ↔
      ∃ country ∈ order.country, dashboard.countryName country = name ∧
        order.currency = currency := by
  have listed (key : γ × κ) : key ∈ dashboard.groupsOf orders name currency ↔
      key ∈ (orders.filterMap group).dedup ∧
        dashboard.countryName key.1 = name ∧ key.2 = currency := by
    rw [groupsOf, List.mem_filter, decide_eq_true_eq]
  rw [List.mem_map]
  constructor
  · rintro ⟨key, grouped, same⟩
    obtain ⟨country, found, rfl⟩ := Option.map_eq_some_iff.mp same.symm
    exact ⟨country, found, ((listed _).mp grouped).2⟩
  · rintro ⟨country, found, counted⟩
    have same : group order = some (country, order.currency) :=
      Option.map_eq_some_iff.mpr ⟨country, found, rfl⟩
    have grouped := List.mem_dedup.mpr (List.mem_filterMap.mpr ⟨order, member, same⟩)
    exact ⟨_, (listed _).mpr ⟨grouped, counted⟩, same.symm⟩

theorem countryRows_amounts [DecidableEq γ] (name : ν) (currency : κ) :
    (((dashboard.countryRows orders).filter fun row =>
      row.countryName = name ∧ row.currencyId = currency).map CountryRow.totalRevenue) =
    (dashboard.groupsOf orders name currency).map fun key =>
      ((orders.filter fun order => group order = some key).map DashboardOrder.amountTotal).sum := by
  rw [countryRows, List.filter_map, List.map_map]
  refine List.map_congr_left fun key _ => ?_
  refine congrArg (fun list => (List.map DashboardOrder.amountTotal list).sum) ?_
  exact List.filter_congr fun order _ => decide_eq_decide.mpr group_eq_some_iff.symm

/-- The groups of a country and a currency have the sum of its orders. -/
theorem sum_countryRows [DecidableEq γ] (name : ν) (currency : κ) :
    (((dashboard.countryRows orders).filter fun row =>
      row.countryName = name ∧ row.currencyId = currency).map CountryRow.totalRevenue).sum =
    (((dashboard.orderRows orders).filter fun row =>
      row.countryName = name ∧ row.currencyId = currency).map CountryRow.totalRevenue).sum := by
  have nodup : ((dashboard.groupsOf orders name currency).map some).Nodup :=
    ((List.nodup_dedup _).filter _).map (Option.some_injective _)
  have perm := flatMap_filter_perm_filter group _ nodup orders
  have parts := sum_map_flatMap ((dashboard.groupsOf orders name currency).map some)
    (fun key => orders.filter fun order => group order = key) DashboardOrder.amountTotal
  rw [List.map_map] at parts
  rw [countryRows_amounts, orderRows_amounts]
  refine parts.symm.trans ((perm.map DashboardOrder.amountTotal).sum_eq.trans ?_)
  refine congrArg (fun list => (List.map DashboardOrder.amountTotal list).sum) ?_
  exact List.filter_congr fun order member =>
    decide_eq_decide.mpr (group_mem_groupsOf_iff member)

theorem revenue_eq_of_sums {first second : List (CountryRow κ ν)} {name : ν}
    (same : ∀ currency, (∃ row ∈ first, row.countryName = name ∧ row.currencyId = currency) ↔
      ∃ row ∈ second, row.countryName = name ∧ row.currencyId = currency)
    (sums : ∀ currency,
      ((first.filter fun row => row.countryName = name ∧ row.currencyId = currency).map
        CountryRow.totalRevenue).sum =
      ((second.filter fun row => row.countryName = name ∧ row.currencyId = currency).map
        CountryRow.totalRevenue).sum) :
    dashboard.revenue first name = dashboard.revenue second name := by
  have currencies : ((first.filter fun row => row.countryName = name).map
      CountryRow.currencyId).toFinset =
        ((second.filter fun row => row.countryName = name).map CountryRow.currencyId).toFinset := by
    ext currency
    simpa [and_assoc] using same currency
  have order (rows : List (CountryRow κ ν)) (currency : κ) :
      ((rows.filter fun row => row.countryName = name).filter fun row =>
        row.currencyId = currency) =
      rows.filter fun row => row.countryName = name ∧ row.currencyId = currency := by
    rw [List.filter_filter]
    refine List.filter_congr fun row _ => ?_
    rw [Bool.and_comm, Bool.decide_and]
  rw [revenue, revenue, currencies]
  refine Finset.sum_congr rfl fun currency _ => ?_
  rw [order, order, sums]

theorem revenue_answer [DecidableEq γ] (answers : dashboard.Answers orders rows) (name : ν) :
    dashboard.revenue rows name = dashboard.revenue (dashboard.orderRows orders) name := by
  refine revenue_eq_of_sums (fun currency => ?_) fun currency => ?_
  · simp only [mem_orderRows_iff, answers.1.mem_iff, countryRows, List.mem_map, List.mem_dedup,
      List.mem_filterMap, Option.map_eq_some_iff]
    constructor
    · rintro ⟨_, ⟨_, ⟨order, member, country, found, rfl⟩, rfl⟩, named, same⟩
      exact ⟨_, ⟨order, member, country, found, rfl⟩, named, same⟩
    · rintro ⟨_, ⟨order, member, country, found, rfl⟩, named, same⟩
      exact ⟨_, ⟨_, ⟨order, member, country, found, rfl⟩, rfl⟩, named, same⟩
  · rw [← sum_countryRows]
    exact ((answers.1.filter _).map _).sum_eq

/-- Where no row is cut off and the rounded shares keep countries of different revenues apart, the
countries of the dashboard are the top ones. -/
theorem top_of_uncut [DecidableEq γ] (answers : dashboard.Answers orders rows)
    (positive : 0 < dashboard.totalRevenueAll orders) (uncut : rows.length ≤ limit * 5)
    (apart : ∀ name ∈ names rows, ∀ other ∈ names rows,
      dashboard.revenue (dashboard.orderRows orders) other <
        dashboard.revenue (dashboard.orderRows orders) name →
      dashboard.shownPercent (dashboard.totalRevenueAll orders) rows other <
        dashboard.shownPercent (dashboard.totalRevenueAll orders) rows name) :
    dashboard.Top orders limit
      (dashboard.integrationDashboardGetTopCountries orders rows limit) := by
  have all : shown rows limit = rows := List.take_of_length_le uncut
  rw [top_iff_rowsSuffice answers positive.ne']
  refine ⟨?_, fun name _ => ?_, fun name listed other larger leads => ?_⟩
  · rw [all, names_answer answers]
    omega
  · rw [all, shownPercent, percentOf, if_pos positive, revenue_answer answers]
  · rw [← names_answer answers] at listed
    have more := apart name listed other (names_shown_subset leads.known) larger
    rw [← all, ← mem_keys_countryMap_iff] at listed
    refine ⟨listed, lt_of_le_of_lt ?_ leads.2⟩
    -- What is ahead of the larger one is ahead of the smaller one.
    refine (List.monotone_filter_right _ fun third ahead => ?_).length_le
    rw [decide_eq_true_eq] at ahead ⊢
    rw [← all] at more
    rcases ahead with above | ⟨same, -⟩
    · exact .inl (more.trans above)
    · exact .inl (more.trans_eq same.symm)

/-! ### An example -/

/-- Euros, with yens at a hundredth of six tenths. -/
def euros : Dashboard ℕ Bool ℕ where
  currency := true
  convert _ amount := amount * 6 / 1000
  countryName := id

/-- Five countries with an order of 1000 yens each, and one with an order of 100 euros. -/
def yenOrders : List (DashboardOrder ℕ Bool) :=
  [⟨some 0, false, 1000⟩, ⟨some 1, false, 1000⟩, ⟨some 2, false, 1000⟩, ⟨some 3, false, 1000⟩,
    ⟨some 4, false, 1000⟩, ⟨some 5, true, 100⟩]

def yenRows : List (CountryRow Bool ℕ) :=
  [⟨0, false, 1000⟩, ⟨1, false, 1000⟩, ⟨2, false, 1000⟩, ⟨3, false, 1000⟩, ⟨4, false, 1000⟩,
    ⟨5, true, 100⟩]

theorem yen_answers : euros.Answers yenOrders yenRows := by
  have same : euros.countryRows yenOrders = yenRows := by decide +kernel
  rw [Answers, same]
  exact ⟨List.Perm.refl _, by decide +kernel⟩

end OdooConnector.Order.Dashboard
