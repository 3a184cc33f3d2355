import Mathlib.Data.List.Forall2

/-! Loops over a list whose body may fail. The first failure ends the loop. -/
namespace Interaction

variable {Item Output Failure : Type} {body : Item → Except Failure Output} {items : List Item}

/-- A traversal in which nothing fails maps the items. -/
theorem mapM_eq_ok {output : Item → Output} (h : ∀ item ∈ items, body item = .ok (output item)) :
    items.mapM body = .ok (items.map output) := by
  induction items with
  | nil => rfl
  | cons item rest ih =>
      rw [List.mapM_cons, h item List.mem_cons_self,
        ih fun other hOther => h other (List.mem_cons_of_mem _ hOther)]
      rfl

/-- A loop with one check and one failure passes exactly if all items do. -/
theorem mapM_checked {accepted : Item → Bool} {output : Item → Output} {failure : Failure}
    (h : ∀ item ∈ items, body item =
      if accepted item then .ok (output item) else .error failure) :
    items.mapM body =
      if items.all accepted then .ok (items.map output) else .error failure := by
  induction items with
  | nil => rfl
  | cons item rest ih =>
      rw [List.mapM_cons, h item List.mem_cons_self,
        ih fun other hOther => h other (List.mem_cons_of_mem _ hOther), List.all_cons]
      cases accepted item with
      | false => rfl
      | true => cases rest.all accepted <;> rfl

/-- Two steps that end well both did. -/
theorem ok_of_bind {first : Except Failure Item} {next : Item → Except Failure Output}
    {output : Output} (h : first >>= next = .ok output) :
    ∃ item, first = .ok item ∧ next item = .ok output := by
  cases first with
  | error failure => cases h
  | ok item => exact ⟨item, rfl, h⟩

/-- A loop that ends well has passed every item. -/
theorem forall₂_of_mapM {outputs : List Output} (h : items.mapM body = .ok outputs) :
    List.Forall₂ (fun item output => body item = .ok output) items outputs := by
  induction items generalizing outputs with
  | nil =>
      cases h
      exact .nil
  | cons item rest ih =>
      rw [List.mapM_cons] at h
      cases hItem : body item with
      | error failure =>
          rw [hItem] at h
          cases h
      | ok output =>
          cases hRest : rest.mapM body with
          | error failure =>
              rw [hItem, hRest] at h
              cases h
          | ok others =>
              rw [hItem, hRest] at h
              cases h
              exact .cons hItem (ih hRest)

end Interaction
