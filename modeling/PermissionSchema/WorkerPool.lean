/-!
# Worker pools

A pool of workers goes through a list of items. An idle worker may take up any item that waits, has
it in hand until it is done, and those that are busy get done in any order: a `Schedule` decides
what happens when. The results are gathered by the places of their items in the list, so the
schedule does not show in them.
-/

namespace PermissionSchema

/-- What happens next in a pool. -/
structure Turn where
  /-- An idle worker takes up an item, as far as one is idle and one waits. Otherwise a worker that
      is busy gets done, as far as one is. -/
  starts : Bool
  /-- The number of the item that is meant, among those that wait or those in hand. It counts modulo
      their number. -/
  choice : Nat

/-- What happens in a pool, turn by turn. -/
abbrev Schedule := Nat → Turn

namespace Schedule

/-- One item after the other is taken up and done, in the order of the list. -/
def inOrder : Schedule := fun turn => ⟨turn % 2 = 0, 0⟩

/-- What is left of a schedule after its first turn. -/
def later (schedule : Schedule) : Schedule := fun turn => schedule (turn + 1)

end Schedule

namespace WorkerPool

variable {α β : Type}

/-- The results in the order of their completion, each with the place of its item, when some items
    are in hand and others wait. There is at least one worker, and each has one item in hand. -/
def completions (workers : Nat) (schedule : Schedule) (work : α → β)
    (inHand waiting : List (Nat × α)) : List (Nat × β) :=
  let turn := schedule 0
  if inHand.length < max workers 1 ∧ waiting ≠ [] ∧ (turn.starts ∨ inHand = []) then
    let chosen := turn.choice % waiting.length
    match _ : waiting[chosen]? with
    | none => []
    | some taken =>
      completions workers schedule.later work (taken :: inHand) (waiting.eraseIdx chosen)
  else
    let chosen := turn.choice % inHand.length
    match _ : inHand[chosen]? with
    | none => []
    | some (place, item) =>
      (place, work item) ::
        completions workers schedule.later work (inHand.eraseIdx chosen) waiting
  termination_by 2 * waiting.length + inHand.length
  decreasing_by
    · have := (List.getElem?_eq_some_iff.1 ‹_›).1
      rw [List.length_eraseIdx_of_lt this, List.length_cons]
      omega
    · have := (List.getElem?_eq_some_iff.1 ‹_›).1
      rw [List.length_eraseIdx_of_lt this]
      omega

/-- The items of a list, each with its place. -/
def placed (items : List α) : List (Nat × α) := items.zipIdx.map fun (item, place) => (place, item)

/-- The results of all items in the order of their completion. -/
def finished (workers : Nat) (schedule : Schedule) (work : α → β) (items : List α) :
    List (Nat × β) := completions workers schedule work [] (placed items)

/-- The results of all items, in the order of the list. -/
def results (workers : Nat) (schedule : Schedule) (work : α → β) (items : List α) : List β :=
  (List.range items.length).filterMap fun place =>
    (finished workers schedule work items).lookup place

end WorkerPool

end PermissionSchema
