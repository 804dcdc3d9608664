import Mathlib.Data.List.Induction
import Mathlib.Data.List.Nodup
import Mathlib.Data.List.Perm.Subperm
import Mathlib.Logic.Function.Basic
import ModeChoice.ModeSet

/-!
# Copies of a tour's modes

The modes of a tour are those that were mentioned, each once and in the order of first
mention.  Every trip works on a copy of its own.  Whatever is done to the copies, and in
whatever order, each of them holds some of the tour's modes in the order of the tour, and a
mode that is gone from a copy does not come back.  What becomes of one copy is decided by the
requests to it alone, and a fresh copy has all modes of the tour again.
-/

namespace ModeChoice

/-! ## The modes that were mentioned -/

/-- The mode that was mentioned first comes first. -/
theorem pairwise_idxOf_distinct (modes : List Mode) :
    (distinct modes).Pairwise fun earlier later => modes.idxOf earlier < modes.idxOf later := by
  induction modes with
  | nil => exact .nil
  | cons first rest ih =>
      have shifted : ∀ mode ∈ (distinct rest).filter (· != first),
          (first :: rest).idxOf mode = rest.idxOf mode + 1 := by
        intro mode among
        have different : mode ≠ first := by simpa using (List.mem_filter.1 among).2
        exact List.idxOf_cons_ne rest different.symm
      rw [distinct, List.pairwise_cons]
      constructor
      · intro mode among
        rw [shifted mode among, List.idxOf_cons_self]
        exact Nat.succ_pos _
      · apply (ih.filter (· != first)).imp_of_mem
        intro earlier later among among' before
        rw [shifted earlier among, shifted later among']
        exact Nat.succ_lt_succ before

namespace TourModes

/-- The tour has the modes that were mentioned, each once and in the order of first mention. -/
structure Gathers (tour : TourModes) (mentioned : List Mode) : Prop where
  mem_iff : ∀ mode, mode ∈ tour.modes ↔ mode ∈ mentioned
  nodup : tour.modes.Nodup
  ordered : tour.modes.Pairwise fun earlier later =>
    mentioned.idxOf earlier < mentioned.idxOf later

/-- Members and order settle the modes of a tour. -/
theorem ofList_eq_ok_iff_gathers {mentioned : List Mode} {tour : TourModes} :
    ofList mentioned = .ok tour ↔ tour.Gathers mentioned := by
  rw [ofList_eq_ok_iff]
  constructor
  · intro same
    refine ⟨?_, tour.nodup, ?_⟩
    · intro mode
      rw [same, mem_distinct]
    · rw [same]
      exact pairwise_idxOf_distinct mentioned
  · rintro ⟨mem_iff, nodup, ordered⟩
    refine List.Perm.eq_of_pairwise ?_ ordered (pairwise_idxOf_distinct mentioned) ?_
    · intro earlier later _ _ before after
      exact absurd before (Nat.lt_asymm after)
    · rw [List.perm_ext_iff_of_nodup nodup (nodup_distinct mentioned)]
      intro mode
      rw [mem_iff, mem_distinct]

/-- The modes of a tour, mentioned once more, make the same tour. -/
theorem ofList_modes (tour : TourModes) : ofList tour.modes = .ok tour := by
  rw [ofList_eq_ok_iff_gathers]
  refine ⟨fun mode => Iff.rfl, tour.nodup, ?_⟩
  apply List.pairwise_iff_getElem.2
  intro earlier later within within' before
  rw [tour.nodup.idxOf_getElem earlier within, tour.nodup.idxOf_getElem later within']
  exact before

end TourModes

/-! ## The laws of a copy -/

/-- A part of a list without repetitions, in the order of the list, is the list without what is
not in the part. -/
theorem eq_filter_of_sublist {part whole : List Mode} (sublist : part.Sublist whole)
    (nodup : whole.Nodup) : part = whole.filter part.contains := by
  have all : part.filter part.contains = part :=
    List.filter_eq_self.2 fun mode among => List.contains_iff_mem.2 among
  have among : part.Sublist (whole.filter part.contains) := by
    have filtered := sublist.filter part.contains
    rwa [all] at filtered
  apply among.eq_of_length_le
  apply ((nodup.filter part.contains).subperm _).length_le
  intro mode kept
  exact List.contains_iff_mem.1 (List.mem_filter.1 kept).2

/-- What is kept of the modes by someone who looks at one after the other and decides with
those in mind that were looked at before. -/
def sifted (keep : List Mode → Mode → Bool) (seen : List Mode) : List Mode → List Mode
  | [] => []
  | mode :: rest =>
      if keep seen mode then mode :: sifted keep (seen ++ [mode]) rest
      else sifted keep (seen ++ [mode]) rest

/-- No mode is looked at twice, so who remembers could as well decide beforehand. -/
theorem sifted_eq_filter (keep : List Mode → Mode → Bool) {modes : List Mode}
    (nodup : modes.Nodup) (seen : List Mode) :
    sifted keep seen modes =
      modes.filter fun mode => keep (seen ++ modes.takeWhile (· != mode)) mode := by
  induction modes generalizing seen with
  | nil => rfl
  | cons first rest ih =>
      rcases List.nodup_cons.1 nodup with ⟨once, nodup⟩
      have later : sifted keep (seen ++ [first]) rest = rest.filter fun mode =>
          keep (seen ++ (first :: rest).takeWhile (· != mode)) mode := by
        rw [ih nodup]
        apply List.filter_congr
        intro mode among
        have different : first ≠ mode := fun same => once (same ▸ among)
        simp [different]
      rw [sifted, List.filter_cons, ← later]
      simp

namespace OpenModes

/-- The laws of a set that is left of the modes of a tour. -/
structure IsPartOf (set : OpenModes) (tour : TourModes) : Prop where
  nodup : set.modes.Nodup
  sublist : set.modes.Sublist tour.modes
  contains_iff : ∀ mode, set.contains mode = true ↔ mode ∈ set.modes
  /-- The first mode is the earliest one of the tour that is still open. -/
  first?_eq : set.first? = tour.modes.find? set.contains
  /-- Removing a mode tells whether it was there. -/
  removed_iff : ∀ mode, (set.remove mode).1 = true ↔ mode ∈ set.modes
  size_remove : ∀ mode ∈ set.modes, (set.remove mode).2.size + 1 = set.size
  /-- Removing a mode leaves the other ones in their order. -/
  modes_remove : ∀ mode, (set.remove mode).2.modes = set.modes.erase mode
  /-- Retaining may depend on the modes that were looked at before. -/
  retained : ∀ keep, ∃ plain, (set.retain plain).modes = sifted keep [] set.modes

variable {set : OpenModes} {tour : TourModes}

theorem modes_remove_eq_erase (set : OpenModes) (mode : Mode) :
    (set.remove mode).2.modes = set.modes.erase mode := by
  rw [set.nodup.erase_eq_filter]
  rfl

theorem remove_eq_true_iff {mode : Mode} : (set.remove mode).1 = true ↔ mode ∈ set.modes := by
  have length : (set.remove mode).1 = ((set.modes.erase mode).length != set.modes.length) := by
    rw [← modes_remove_eq_erase]
    rfl
  rw [length, bne_iff_ne]
  by_cases among : mode ∈ set.modes
  · have shorter := List.length_erase_add_one among
    simp only [among, iff_true]
    omega
  · simp [among, List.erase_of_not_mem among]

theorem isPartOf_of_sublist (sublist : set.modes.Sublist tour.modes) : set.IsPartOf tour where
  nodup := set.nodup
  sublist := sublist
  contains_iff := fun mode => contains_iff
  first?_eq := by
    rw [first?, eq_filter_of_sublist sublist tour.nodup, List.head?_filter]
    rfl
  removed_iff := fun mode => remove_eq_true_iff
  size_remove := by
    intro mode among
    rw [size, modes_remove_eq_erase, List.length_erase_add_one among, size]
  modes_remove := modes_remove_eq_erase set
  retained := fun keep => ⟨_, (sifted_eq_filter keep set.nodup []).symm⟩

end OpenModes

/-! ## Many copies -/

namespace OpenModes

/-- What may be done to a copy. -/
inductive Operation where
  | retain (keep : Mode → Bool)
  | remove (mode : Mode)
  | contains (mode : Mode)

/-- The copy after an operation. -/
def after (set : OpenModes) : Operation → OpenModes
  | .retain keep => set.retain keep
  | .remove mode => (set.remove mode).2
  | .contains _ => set

/-- No operation brings a mode in or changes the order. -/
theorem modes_after_sublist (set : OpenModes) (operation : Operation) :
    (set.after operation).modes.Sublist set.modes := by
  cases operation with
  | retain keep => exact List.filter_sublist
  | remove mode => exact List.filter_sublist
  | contains mode => exact .refl _

end OpenModes

open OpenModes (Operation)

/-- A request is to one of the copies, which go by numbers. -/
inductive CopyRequest where
  /-- Takes a fresh copy under this number. -/
  | take (copy : Nat)
  | use (copy : Nat) (operation : Operation)

namespace CopyRequest

/-- The copy that a request is to. -/
def copy : CopyRequest → Nat
  | .take copy => copy
  | .use copy _ => copy

theorem copy_take (copy : Nat) : (take copy).copy = copy := rfl

theorem copy_use (copy : Nat) (operation : Operation) : (use copy operation).copy = copy := rfl

/-- A request takes the copy anew, does something to it, or is to another copy. -/
theorem cases_to (request : CopyRequest) (copy : Nat) :
    request = .take copy ∨ (∃ operation, request = .use copy operation) ∨
      request.copy ≠ copy := by
  by_cases own : request.copy = copy
  · subst own
    cases request with
    | take copy => exact .inl rfl
    | use copy operation => exact .inr (.inl ⟨operation, rfl⟩)
  · exact .inr (.inr own)

end CopyRequest

/-- The requests to one copy. -/
def requestsTo (copy : Nat) (requests : List CopyRequest) : List CopyRequest :=
  requests.filter fun request => request.copy = copy

theorem requestsTo_concat_own {requests : List CopyRequest} {request : CopyRequest} {copy : Nat}
    (own : request.copy = copy) :
    requestsTo copy (requests ++ [request]) = requestsTo copy requests ++ [request] := by
  simp [requestsTo, own]

theorem requestsTo_concat_other {requests : List CopyRequest} {request : CopyRequest}
    {copy : Nat} (other : request.copy ≠ copy) :
    requestsTo copy (requests ++ [request]) = requestsTo copy requests := by
  simp [requestsTo, other]

/-- The modes of a tour and the copies that have been taken of them. -/
structure Copies where
  tour : TourModes
  held : Nat → Option OpenModes

/-- The copies after a request. -/
def Copies.serve (copies : Copies) : CopyRequest → Copies
  | .take copy =>
      { copies with held := Function.update copies.held copy (some copies.tour.candidates) }
  | .use copy operation =>
      { copies with
        held := Function.update copies.held copy
          ((copies.held copy).map fun set => set.after operation) }

/-- The copies of a tour's modes after some requests. -/
def TourModes.served (tour : TourModes) (requests : List CopyRequest) : Copies :=
  requests.foldl Copies.serve ⟨tour, fun _ => none⟩

namespace Copies

variable (copies : Copies)

theorem tour_serve (request : CopyRequest) : (copies.serve request).tour = copies.tour := by
  cases request <;> rfl

theorem held_take (copy : Nat) :
    (copies.serve (.take copy)).held copy = some copies.tour.candidates :=
  Function.update_self ..

theorem held_use (copy : Nat) (operation : Operation) :
    (copies.serve (.use copy operation)).held copy =
      (copies.held copy).map fun set => set.after operation :=
  Function.update_self ..

/-- A request to another copy changes nothing. -/
theorem held_serve_of_ne {request : CopyRequest} {copy : Nat} (other : request.copy ≠ copy) :
    (copies.serve request).held copy = copies.held copy := by
  cases request with
  | take _ => exact Function.update_of_ne other.symm _ _
  | use _ operation => exact Function.update_of_ne other.symm _ _

end Copies

namespace TourModes

variable (tour : TourModes) {requests : List CopyRequest} {copy : Nat}

theorem served_concat (requests : List CopyRequest) (request : CopyRequest) :
    tour.served (requests ++ [request]) = (tour.served requests).serve request := by
  rw [served, List.foldl_append]
  rfl

theorem tour_served (requests : List CopyRequest) : (tour.served requests).tour = tour := by
  induction requests using List.reverseRecOn with
  | nil => rfl
  | append_singleton requests request ih => rw [served_concat, Copies.tour_serve, ih]

/-- What becomes of a copy is decided by the requests to it. -/
theorem held_served_eq_own (requests : List CopyRequest) (copy : Nat) :
    (tour.served requests).held copy = (tour.served (requestsTo copy requests)).held copy := by
  induction requests using List.reverseRecOn with
  | nil => rfl
  | append_singleton requests request ih =>
      rw [served_concat]
      rcases request.cases_to copy with rfl | ⟨operation, rfl⟩ | other
      · rw [requestsTo_concat_own (CopyRequest.copy_take copy), served_concat, Copies.held_take,
          Copies.held_take, tour_served, tour_served]
      · rw [requestsTo_concat_own (CopyRequest.copy_use copy operation), served_concat,
          Copies.held_use, Copies.held_use, ih]
      · rw [requestsTo_concat_other other, Copies.held_serve_of_ne _ other, ih]

/-- More requests take modes out of a copy, as long as it is not taken anew. -/
theorem exists_held_sublist {set : OpenModes} (held : (tour.served requests).held copy = some set)
    {more : List CopyRequest} (kept : CopyRequest.take copy ∉ more) :
    ∃ later, (tour.served (requests ++ more)).held copy = some later ∧
      later.modes.Sublist set.modes := by
  induction more using List.reverseRecOn with
  | nil => exact ⟨set, by rwa [List.append_nil], .refl _⟩
  | append_singleton more request ih =>
      rw [List.mem_append, not_or, List.mem_singleton] at kept
      rcases ih kept.1 with ⟨later, held', sublist⟩
      rw [← List.append_assoc, served_concat]
      rcases request.cases_to copy with rfl | ⟨operation, rfl⟩ | other
      · exact absurd rfl kept.2
      · refine ⟨later.after operation, ?_, (later.modes_after_sublist operation).trans sublist⟩
        rw [Copies.held_use, held', Option.map_some]
      · exact ⟨later, by rw [Copies.held_serve_of_ne _ other, held'], sublist⟩

/-- A copy has modes of the tour alone, and those in the order of the tour. -/
theorem modes_held_sublist {set : OpenModes}
    (held : (tour.served requests).held copy = some set) : set.modes.Sublist tour.modes := by
  induction requests using List.reverseRecOn generalizing set with
  | nil => cases held
  | append_singleton requests request ih =>
      rw [served_concat] at held
      rcases request.cases_to copy with rfl | ⟨operation, rfl⟩ | other
      · rw [Copies.held_take, tour_served] at held
        cases held
        exact .refl _
      · rw [Copies.held_use] at held
        rcases Option.map_eq_some_iff.1 held with ⟨former, held', rfl⟩
        exact (former.modes_after_sublist operation).trans (ih held')
      · rw [Copies.held_serve_of_ne _ other] at held
        exact ih held

/-- The laws of the copies of a tour's modes after some requests. -/
structure Lends (requests : List CopyRequest) : Prop where
  tour_eq : (tour.served requests).tour = tour
  /-- A fresh copy has all modes of the tour, whatever was done to other copies. -/
  fresh : ∀ copy, ∃ set, (tour.served (requests ++ [.take copy])).held copy = some set ∧
    set.modes = tour.modes
  /-- Requests to other copies make no difference. -/
  own : ∀ copy, (tour.served requests).held copy =
    (tour.served (requestsTo copy requests)).held copy
  part : ∀ copy set, (tour.served requests).held copy = some set → set.IsPartOf tour
  /-- A mode that is gone does not come back before the copy is taken anew. -/
  gone : ∀ copy set more, (tour.served requests).held copy = some set →
    CopyRequest.take copy ∉ more →
      ∃ later, (tour.served (requests ++ more)).held copy = some later ∧
        later.modes.Sublist set.modes ∧ ∀ mode, mode ∉ set.modes → mode ∉ later.modes

theorem lends (requests : List CopyRequest) : tour.Lends requests where
  tour_eq := tour.tour_served requests
  fresh := by
    intro copy
    refine ⟨tour.candidates, ?_, tour.toList_candidates⟩
    rw [served_concat, Copies.held_take, tour_served]
  own := tour.held_served_eq_own requests
  part := fun copy set held => OpenModes.isPartOf_of_sublist (tour.modes_held_sublist held)
  gone := by
    intro copy set more held kept
    rcases tour.exists_held_sublist held kept with ⟨later, held', sublist⟩
    exact ⟨later, held', sublist, fun mode => mt (sublist.subset ·)⟩

/-- Modes that are mentioned make a tour's modes unless there are none: each once, in the order
of first mention.  The copies of these modes keep the laws of a copy whatever is asked of them
and in whatever order, and leave the tour and each other alone. -/
theorem ofList_lends :
    (∀ mentioned error, ofList mentioned = .error error ↔ mentioned = [] ∧ error = .emptySet) ∧
      (∀ mentioned tour, ofList mentioned = .ok tour ↔ tour.Gathers mentioned) ∧
      ∀ tour, ofList tour.modes = .ok tour ∧ ∀ requests, tour.Lends requests := by
  refine ⟨fun mentioned error => ofList_eq_error_iff, ?_, ?_⟩
  · exact fun mentioned tour => ofList_eq_ok_iff_gathers
  · exact fun tour => ⟨tour.ofList_modes, tour.lends⟩

/-- Five mentions make three modes.  What is taken out of the copy 0 is missing there and not in
the copy 1, which is taken later. -/
theorem five_mentions_lend :
    let mentioned : List Mode := [.publicTransport, .car, .publicTransport, .walk, .car]
    let tour : TourModes := ⟨[.publicTransport, .car, .walk], by decide, by decide⟩
    let requests : List CopyRequest :=
      [.take 0, .use 0 (.remove .car), .take 1, .use 0 (.retain (· != .publicTransport)),
        .use 1 (.contains .car)]
    ofList mentioned = .ok tour ∧ tour.Lends requests ∧
      ((tour.served requests).held 0).map OpenModes.modes = some [.walk] ∧
      ((tour.served requests).held 1).map OpenModes.modes = some tour.modes := by
  intro mentioned tour requests
  exact ⟨by decide, (ofList_lends.2.2 tour).2 requests, by decide, by decide⟩

end TourModes

end ModeChoice
