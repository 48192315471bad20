import ConditionQuery.Proofs.Retention

/-! How many conditions a hub stores, and what it says of it. There is always room for one; beyond
that there are never more than the configuration asks for. -/
namespace ConditionQuery

namespace Hub

variable {hub : Hub}

theorem bounded_next (bounded : hub.store.Bounded) (visit : Visit) :
    (hub.next visit).store.Bounded := by
  rcases hub.next_cases visit with ⟨-, same⟩ | ⟨-, wanted, c, -, -, -, after⟩ |
    ⟨id, stored, -, -, after⟩
  · rw [same]
    exact bounded
  · rw [after]
    exact bounded.insert _
  · rw [after]
    exact bounded.erase id

theorem bounded_afterAll (bounded : hub.store.Bounded) (visits : List Visit) :
    (hub.afterAll visits).store.Bounded := by
  induction visits generalizing hub with
  | nil => exact bounded
  | cons visit visits ih => exact ih (bounded_next bounded visit)

theorem capacity_afterAll (hub : Hub) (visits : List Visit) :
    (hub.afterAll visits).store.capacity = hub.store.capacity := by
  induction visits generalizing hub with
  | nil => rfl
  | cons visit visits ih => exact (ih (hub.next visit)).trans (hub.capacity_next visit)

theorem config_next (hub : Hub) (visit : Visit) : (hub.next visit).config = hub.config := by
  rcases hub.next_cases visit with ⟨-, same⟩ | ⟨-, wanted, c, -, -, -, after⟩ |
    ⟨id, stored, -, -, after⟩
  · rw [same]
  · rw [after]
  · rw [after]

theorem config_afterAll (hub : Hub) (visits : List Visit) :
    (hub.afterAll visits).config = hub.config := by
  induction visits generalizing hub with
  | nil => rfl
  | cons visit visits ih => exact (ih (hub.next visit)).trans (hub.config_next visit)

theorem answer_status {visit : Visit} (asked : visit.request.method = .get)
    (routed : Route.ofPath? visit.request.path = some .status) :
    hub.answer visit = .document .ok (hub.status visit.arrival) := by
  simp only [answer, respond, routed, asked, serve?, Option.getD_some]

/-- Whatever has been asked of a hub before, its status tells of no more stored conditions than the
configured number, or than one where that number is zero. -/
theorem stored_of_status (config : HubConfig) (visits : List Visit) (visit : Visit)
    (asked : visit.request.method = .get)
    (routed : Route.ofPath? visit.request.path = some .status) :
    ∃ (report : Json) (stored capacity : Nat),
      ((start config).afterAll visits).answer visit = .document .ok report ∧
      report.get? "stored_conditions" = some (.int stored) ∧
      report.get? "history_capacity" = some (.int capacity) ∧
      capacity = config.historyCapacity ∧ stored ≤ max 1 capacity := by
  have start : (start config).store.Bounded := Store.bounded_empty config
  have bounded := (bounded_afterAll start visits).size
  rw [capacity_afterAll] at bounded
  refine ⟨_, _, _, answer_status asked routed, rfl, rfl, ?_, ?_⟩
  · rw [config_afterAll]
    rfl
  · rw [config_afterAll]
    exact bounded

/-- A request for the status. -/
def statusVisit : Visit := ⟨⟨"0", "now", 0⟩, ⟨.get, "/api/status", none, ""⟩⟩

theorem stored_of_status_full :
    statusVisit.request.method = .get ∧
      Route.ofPath? statusVisit.request.path = some .status ∧
      ∃ (report : Json) (stored capacity : Nat),
        ((start ⟨2, none, "S", false⟩).afterAll
          [⟨⟨"1", "now", 0⟩, priceless⟩, ⟨⟨"2", "now", 0⟩, priceless⟩,
            ⟨⟨"3", "now", 0⟩, priceless⟩]).answer statusVisit = .document .ok report ∧
        report.get? "stored_conditions" = some (.int stored) ∧
        report.get? "history_capacity" = some (.int capacity) ∧
        capacity = 2 ∧ stored ≤ max 1 capacity := by
  have routed : Route.ofPath? statusVisit.request.path = some .status := by decide +kernel
  exact ⟨rfl, routed, stored_of_status ⟨2, none, "S", false⟩ _ statusVisit rfl routed⟩

/-- A configured number of zero leaves room for one condition, which the status then tells of. -/
theorem stored_above_zero :
    ∃ config, HubConfig.parse? "[server]\nhistory_capacity = 0\n" = some config ∧
      ∃ (report : Json) (stored capacity : Nat),
        ((start config).afterAll [⟨⟨"1", "now", 0⟩, priceless⟩]).answer statusVisit =
          .document .ok report ∧
        report.get? "stored_conditions" = some (.int stored) ∧
        report.get? "history_capacity" = some (.int capacity) ∧
        capacity = config.historyCapacity ∧ ¬ stored ≤ capacity := by
  refine ⟨⟨0, none, "S", false⟩, by decide +kernel, ?_⟩
  refine ⟨_, _, _, answer_status rfl (by decide +kernel), rfl, rfl, ?_, ?_⟩
  · rw [config_afterAll]
    rfl
  · decide +kernel

end Hub
end ConditionQuery
