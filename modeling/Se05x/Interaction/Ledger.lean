import Mathlib.Data.List.Nodup
import Se05x.Interaction.Contract

/-!
# Ledgers of acquired resources

A ledger tells what is held and what has been given back. Over an accepted trace, what was
given back and what is held at the end is what was acquired and what was held at the start.
-/

set_option autoImplicit false

namespace Interaction

open scoped List

/-- A resource that was given back may be acquired again. -/
structure Ledger (Resource : Type) where
  held : List Resource
  released : List Resource
  distinct : held.Nodup
  apart : ∀ resource ∈ held, resource ∉ released

namespace Ledger

variable {Resource : Type}

def empty : Ledger Resource := ⟨[], [], .nil, nofun⟩

@[simp] theorem empty_held : (empty : Ledger Resource).held = [] := rfl

variable [DecidableEq Resource] {ledger : Ledger Resource} {resource : Resource}

def acquire (ledger : Ledger Resource) (resource : Resource) : Ledger Resource where
  held := ledger.held.insert resource
  released := ledger.released.filter (· ≠ resource)
  distinct := ledger.distinct.insert
  apart other member gone := by
    have kept := List.mem_filter.mp gone
    cases List.mem_insert_iff.mp member with
    | inl same => exact of_decide_eq_true kept.2 same
    | inr held => exact ledger.apart other held kept.1

def release (ledger : Ledger Resource) (resource : Resource) : Ledger Resource where
  held := ledger.held.erase resource
  released := resource :: ledger.released
  distinct := ledger.distinct.erase resource
  apart other member gone := by
    have still := ledger.distinct.mem_erase_iff.mp member
    cases List.mem_cons.mp gone with
    | inl same => exact still.1 same
    | inr before => exact ledger.apart other still.2 before

theorem acquire_held (fresh : resource ∉ ledger.held) :
    (ledger.acquire resource).held = resource :: ledger.held :=
  List.insert_of_not_mem fresh

theorem foldl_acquire_held {resources : List Resource} (distinct : resources.Nodup)
    (fresh : ∀ resource ∈ resources, resource ∉ ledger.held) :
    (resources.foldl acquire ledger).held = resources.reverse ++ ledger.held := by
  induction resources generalizing ledger with
  | nil => rfl
  | cons resource resources ih =>
      obtain ⟨new, distinct⟩ := List.nodup_cons.mp distinct
      obtain ⟨first, rest⟩ := List.forall_mem_cons.mp fresh
      have taken := acquire_held first
      rw [List.foldl_cons, ih distinct, taken, List.reverse_cons, List.append_assoc,
        List.singleton_append]
      intro other member
      rw [taken, List.mem_cons, not_or]
      exact ⟨fun same => new (same ▸ member), rest other member⟩

theorem release_held {rest : List Resource} (top : ledger.held = resource :: rest) :
    (ledger.release resource).held = rest := by
  change ledger.held.erase resource = rest
  rw [top, List.erase_cons_head]

theorem release_perm (held : resource ∈ ledger.held) :
    (ledger.release resource).held ++ [resource] ~ ledger.held :=
  List.perm_append_comm.trans (List.perm_cons_erase held).symm

end Ledger

namespace Contract

variable {I : Interface} {State Resource : Type} {contract : Contract I State}
  {held : State → List Resource} {acquired returned : Event I → List Resource}

/-- What every allowed move balances, an accepted trace balances. -/
theorem Accepts.balances {first last : State} {trace : List (Event I)}
    (accepted : contract.Accepts first trace last)
    (step : ∀ {first event second}, contract.allows first event.request →
      contract.moves first event second →
      held second ++ returned event ~ held first ++ acquired event) :
    held last ++ trace.flatMap returned ~ held first ++ trace.flatMap acquired := by
  induction accepted with
  | nil => exact .refl _
  | @cons first second last event trace allowed moved _ ih =>
      simp only [List.flatMap_cons]
      calc held last ++ (returned event ++ trace.flatMap returned)
        _ ~ (held last ++ trace.flatMap returned) ++ returned event := by
            rw [List.append_assoc]
            exact List.perm_append_comm.append_left _
        _ ~ (held second ++ trace.flatMap acquired) ++ returned event := ih.append_right _
        _ ~ (held second ++ returned event) ++ trace.flatMap acquired := by
            rw [List.append_assoc, List.append_assoc]
            exact List.perm_append_comm.append_left _
        _ ~ (held first ++ acquired event) ++ trace.flatMap acquired :=
            (step allowed moved).append_right _
        _ ~ held first ++ (acquired event ++ trace.flatMap acquired) := by
            rw [List.append_assoc]

/-- A budget every allowed move pays from covers the payments of an accepted trace. -/
theorem Accepts.affords {budget : State → Nat} {cost : Event I → List Resource}
    {first last : State} {trace : List (Event I)} (accepted : contract.Accepts first trace last)
    (step : ∀ {first event second}, contract.allows first event.request →
      contract.moves first event second → budget second + (cost event).length ≤ budget first) :
    budget last + (trace.flatMap cost).length ≤ budget first := by
  induction accepted with
  | nil => exact Nat.le_refl _
  | @cons first second last event trace allowed moved _ ih =>
      have paid := step allowed moved
      rw [List.flatMap_cons, List.length_append]
      omega

end Contract

end Interaction
