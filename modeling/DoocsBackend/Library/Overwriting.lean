import Mathlib

/-! # Queues which overwrite

Pushing never fails: a queue without room for the element pushed gives up others for it. What a
reader has taken, followed by what is still queued, is what was pushed without the
elements given up: in the order pushed, and up to the newest element.
-/
namespace Overwriting

variable {ν : Type*}

/-- What remains of the elements pushed. -/
structure Kept (pushed taken queue : List ν) : Prop where
  sublist : (taken ++ queue).Sublist pushed
  newest : (taken ++ queue).getLast? = pushed.getLast?

variable {pushed taken queue kept : List ν} {x : ν}

namespace Kept

theorem nil : Kept ([] : List ν) [] [] where
  sublist := List.Sublist.refl []
  newest := rfl

/-- An element is pushed, for which the queue keeps some of the others only. -/
theorem push (h : Kept pushed taken queue) (hkept : kept.Sublist queue) (x : ν) :
    Kept (pushed ++ [x]) taken (kept ++ [x]) where
  sublist := by
    rw [← List.append_assoc]
    apply List.Sublist.append _ (List.Sublist.refl [x])
    exact ((List.Sublist.refl taken).append hkept).trans h.sublist
  newest := by
    rw [← List.append_assoc, List.getLast?_concat, List.getLast?_concat]

/-- The reader takes the oldest element. -/
theorem take (h : Kept pushed taken (x :: queue)) : Kept pushed (taken ++ [x]) queue where
  sublist := by simpa using h.sublist
  newest := by simpa using h.newest

end Kept

end Overwriting
