import Se05x.Interaction.Watching
import Se05x.Pkcs11.ListFree
import Se05x.Pkcs11.SuiteProperties
import Se05x.Pkcs11.Verdict

/-!
# Reads within the room of a list

While no call reports more than it was given room for, the suite reads no cell behind it.
-/

set_option autoImplicit false

namespace Se05x.Pkcs11

open Interaction Procedure

def roomy : Contract cryptoki Unit :=
  (confining fun request : CryptokiCall => request.strays = false).meeting
    fun _ event => withinRoom event = true

/-- The body reads within the room, whatever it is entered with and however it is left. -/
abbrev Bounded {Value : Type} (body : Body Value) : Prop :=
  Keeps roomy (fun _ _ _ => True) (fun _ _ => True) body

@[simp] theorem refused_eq_false_iff {rv : CkRv} : refused rv = false ↔ rv = ckrOk := by
  simp [refused]

@[simp] theorem refused_eq_true_iff {rv : CkRv} : refused rv = true ↔ rv ≠ ckrOk := by
  simp [refused]

theorem le_of_withinRoom {rv : CkRv} {reported room : Nat}
    (within : (refused rv || decide (reported ≤ room)) = true) (succeeded : rv = ckrOk) :
    reported ≤ room := by
  rw [refused_eq_false_iff.mpr succeeded, Bool.false_or] at within
  exact of_decide_eq_true within

namespace Bounding

variable {session : SessionHandle} {capacity : Nat}

theorem inert {request : CryptokiCall} (inside : request.strays = false) {state : Unit} :
    Inert roomy state request :=
  ⟨inside, fun _ _ _ => rfl⟩

theorem quiet : Quiet roomy := fun _ _ => inert rfl

theorem issuing {request : CryptokiCall} (inside : request.strays = false) :
    Bounded (issue request) :=
  keeps_inert fun _ _ _ => inert inside

/-- What the answer of a call is held to. -/
theorem promised {request : CryptokiCall} (inside : request.strays = false) :
    Carries roomy (fun _ _ _ => True) (fun _ _ => True)
      (fun answer _ _ => withinRoom ⟨request, answer⟩ = true ∧ True) (issue request) :=
  fun _ _ _ => ⟨inside, fun _ _ moved => ⟨moved.2, trivial⟩⟩

theorem printing {text : String} : Bounded (printf text) := keeps_printf quiet

theorem checking {name : String} {rv : CkRv} : Bounded (ckCheck name rv) :=
  keeps_ckCheck quiet fun _ _ _ => trivial

theorem read_wp {array : LocalArray} {cells : Vector (Option Nat) capacity} {i : Nat}
    (inside : i < capacity) :
    (readCell array cells i).wp roomy (fun _ _ => True) () := by
  rw [readCell, Vector.getElem?_eq_getElem inside]
  cases cells[i] with
  | none => exact ⟨rfl, fun _ _ _ => trivial⟩
  | some value => exact ⟨rfl, fun _ _ _ => trivial⟩

theorem reading {array : LocalArray} {cells : Vector (Option Nat) capacity} {i : Nat}
    (inside : i < capacity) : Bounded (invoke (readCell array cells i) : Body Nat) :=
  fun _ _ _ => wp_invoke.mpr (read_wp inside)

/-- A loop over the cells a list call has counted. -/
theorem ranging {fetched : Listed capacity} (counted : fetched.count ≤ capacity)
    {body : Nat → Body Unit} (each : ∀ i < capacity, Bounded (body i)) :
    Bounded ((List.range fetched.count).forM body) :=
  .forM fun i member => each i ((List.mem_range.mp member).trans_le counted)

theorem printingMechanisms {slot : SlotId} : Bounded (printMechanisms slot) := by
  refine .bind (issuing rfl) fun mechCount => ?_
  refine .ite (fun _ => ?_) fun _ => ?_
  · refine .bind printing fun _ => ?_
    refine .bind (promised rfl) fun mechBuf => ?_
    refine .given fun room => ?_
    refine .ite (fun succeeded => ?_) fun _ => ?_
    · refine ranging (le_of_withinRoom room succeeded) fun m inside => ?_
      exact .bind (reading inside) fun _ => keeps_printMechanism quiet
    · exact keeps_nothing
  · exact keeps_nothing

theorem printingSlot {slots : Vector (Option Nat) capacity} {i : Nat} (inside : i < capacity) :
    Bounded (printSlot slots i) := by
  refine .bind (reading inside) fun slot => ?_
  refine .bind printing fun _ => ?_
  refine .bind (issuing rfl) fun answer => ?_
  refine .bind (keeps_printSlotInfo quiet) fun _ => ?_
  refine .bind (issuing rfl) fun answer => ?_
  refine .bind (keeps_printTokenInfo quiet) fun _ => ?_
  exact printingMechanisms

theorem printingObject {handles : Vector (Option Nat) 64} {i : Nat} (inside : i < 64) :
    Bounded (printObject session handles i) := by
  refine .bind (reading inside) fun handle => ?_
  refine .bind (issuing rfl) fun answer => ?_
  exact printing

end Bounding

section Suite

open Bounding

variable {session : SessionHandle}

end Suite

end Se05x.Pkcs11
