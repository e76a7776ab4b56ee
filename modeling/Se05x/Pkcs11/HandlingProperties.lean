import Mathlib.Data.List.ReduceOption
import Se05x.Pkcs11.Inventory
import Se05x.Pkcs11.ListFree
import Se05x.Pkcs11.SuiteProperties

/-!
# What the suite reads of a list

Every cell read is one the module wrote, and the session is opened on such a slot, exactly
when the module's steps leave no cell behind that is read regardless of the return code.
-/

set_option autoImplicit false

namespace Se05x.Pkcs11

open Interaction Procedure

namespace Listed

variable {capacity : Nat} {fetched : Listed capacity} {values : List Nat}

theorem Holds.cell (holds : fetched.Holds values) {i : Nat} (inside : i < values.length) :
    fetched.cells[i]? = some (some values[i]) := by
  have cell : fetched.cells.toList[i]? = some (some values[i]) := by
    rw [holds.2, List.getElem?_append_left (by rwa [List.length_map]), List.getElem?_map,
      List.getElem?_eq_getElem inside, Option.map_some]
  rwa [Vector.getElem?_toList] at cell

theorem Holds.written (holds : fetched.Holds values) {i : Nat} (inside : i < values.length) :
    fetched.Written i :=
  ⟨values[i], holds.cell inside⟩

theorem Holds.full (holds : fetched.Holds values) : ∀ i < fetched.count, fetched.Written i := by
  intro i inside
  rw [holds.1] at inside
  exact holds.written inside

theorem Fetches.full (fetches : fetched.Fetches values) (succeeded : fetched.rv = ckrOk) :
    ∀ i < fetched.count, fetched.Written i := by
  obtain ⟨_, holds⟩ := fetches.filled succeeded
  exact holds.full

theorem HandsOut.full {remaining : List Nat} (handsOut : fetched.HandsOut remaining)
    (succeeded : fetched.rv = ckrOk) : ∀ i < fetched.count, fetched.Written i := by
  obtain ⟨_, holds⟩ := handsOut succeeded
  exact holds.full

/-- Of an answered call the first cell is written when there is a value and room for all. -/
theorem Fetches.written_zero_iff (fetches : fetched.Fetches values) (answered : fetched.Answered) :
    fetched.Written 0 ↔ values ≠ [] ∧ values.length ≤ capacity := by
  cases answered with
  | inl succeeded =>
      obtain ⟨fits, holds⟩ := fetches.filled succeeded
      constructor
      · intro written
        refine ⟨?_, fits⟩
        rintro rfl
        obtain ⟨value, cell⟩ := written
        rw [← Vector.getElem?_toList, holds.2, List.map_nil, List.nil_append,
          List.getElem?_replicate] at cell
        split at cell <;> simp at cell
      · intro some
        exact holds.written (List.length_pos_of_ne_nil some.1)
  | inr refused =>
      obtain ⟨exceeds, _, unwritten⟩ := fetches.refused refused
      constructor
      · intro written
        exact absurd written (unwritten 0)
      · intro fits
        exact absurd fits.2 (Nat.not_le_of_lt exceeds)

theorem Written.mem {i : Nat} {value : Nat} (cell : fetched.cells[i]? = some (some value)) :
    value ∈ fetched.cells.toList.reduceOption := by
  rw [List.reduceOption_mem_iff]
  rw [← Vector.getElem?_toList] at cell
  exact List.mem_of_getElem? cell

end Listed

def handling : Contract cryptoki (Watch Inventory Handling) :=
  conforming.watching Served Handling.record

/-- Nothing has changed between these states that carefulness depends on. -/
structure Unmoved (before after : Watch Inventory Handling) : Prop where
  opened : after.state.opened = before.state.opened
  kept : after.kept ↔ before.kept
  record : after.record = before.record

theorem unmoved_of_listFree {request : CryptokiCall} {answer : request.Answer}
    {before after : Watch Inventory Handling} (free : request.listFree = true)
    (moved : handling.moves before ⟨request, answer⟩ after) : Unmoved before after := by
  obtain ⟨⟨_, held, _, becomes⟩, kept, record⟩ := moved
  have opened : (before.state.next ⟨request, answer⟩).opened = before.state.opened := by
    cases request with
    | countSlots tokenPresent => cases tokenPresent <;> rfl
    | findObjectsInit session =>
        simp only [Inventory.next]
        split <;> rfl
    | readCell | getSlotList | findObjects | openSession => exact absurd free nofun
    | _ => rfl
  have served : Served before.state ⟨request, answer⟩ := by
    cases request with
    | readCell | getSlotList | findObjects | openSession => exact absurd free nofun
    | _ => trivial
  have recorded : before.record.record ⟨request, answer⟩ = before.record := by
    cases request with
    | readCell | getSlotList | findObjects | openSession => exact absurd free nofun
    | _ => rfl
  refine ⟨?_, ?_, record.trans recorded⟩
  · rw [becomes]
    exact opened
  · rw [kept]
    exact and_iff_left served

theorem unmoved_of_written {array : LocalArray} {value : Nat} {answer : Unit}
    {before after : Watch Inventory Handling}
    (moved : handling.moves before ⟨.readCell array (.written value), answer⟩ after) :
    Unmoved before after := by
  obtain ⟨⟨_, held, _, becomes⟩, kept, record⟩ := moved
  refine ⟨?_, ?_, record⟩
  · rw [becomes]
    rfl
  · rw [kept]
    exact and_iff_left trivial

/-- A cell was read that the module had not written. -/
structure Strayed (before after : Watch Inventory Handling) : Prop where
  opened : after.state.opened = before.state.opened
  kept : after.kept ↔ before.kept
  careless : after.record.careful = false

theorem strayed_of_unwritten {array : LocalArray} {cell : Cell} {answer : cell.Answer}
    {before after : Watch Inventory Handling} (unwritten : cell = .unwritten ∨ cell = .outside)
    (moved : handling.moves before ⟨.readCell array cell, answer⟩ after) :
    Strayed before after := by
  obtain ⟨⟨_, held, _, becomes⟩, kept, record⟩ := moved
  refine ⟨?_, ?_, ?_⟩
  · rw [becomes]
    rfl
  · rw [kept]
    exact and_iff_left trivial
  · rw [record]
    cases unwritten with
    | inl unwritten | inr unwritten =>
        subst unwritten
        rfl

theorem handling_quiet : Quiet handling := by
  intro w text
  refine ⟨trivial, fun answer after moved => ?_⟩
  obtain ⟨_, kept, record⟩ := unmoved_of_listFree rfl moved
  obtain ⟨⟨_, held, same, becomes⟩, _, _⟩ := moved
  have stays : held = w.state.held := same
  rw [stays] at becomes
  exact Watch.ext becomes (propext kept) record

/-- In the session the run is careful exactly if every step met its condition, this one
condition aside. -/
def Owing (owed : Prop) (w : Watch Inventory Handling) : Prop :=
  w.state.opened = true ∧ (w.kept ↔ w.record.careful = true ∧ owed)

/-- Nothing has been fetched and no session opened. -/
structure Unopened (w : Watch Inventory Handling) : Prop where
  opened : w.state.opened = false
  kept : w.kept
  record : w.record = .start

section

variable {before after : Watch Inventory Handling} {owed : Prop}

theorem Owing.move (owing : Owing owed before) (unmoved : Unmoved before after) :
    Owing owed after := by
  refine ⟨unmoved.opened.trans owing.1, ?_⟩
  rw [unmoved.record]
  exact unmoved.kept.trans owing.2

theorem Unopened.move (unopened : Unopened before) (unmoved : Unmoved before after) :
    Unopened after :=
  ⟨unmoved.opened.trans unopened.opened, unmoved.kept.mpr unopened.kept,
    unmoved.record.trans unopened.record⟩

end

namespace HandlingLists

section Reads

variable {array : LocalArray} {capacity : Nat} {fetched : Listed capacity} {i : Nat}
  {w : Watch Inventory Handling} {post : Nat → Watch Inventory Handling → Prop}

theorem readCell_written (written : fetched.Written i)
    (next : ∀ value after, fetched.cells[i]? = some (some value) → Unmoved w after →
      post value after) :
    (readCell array fetched.cells i).wp handling post w := by
  obtain ⟨value, cell⟩ := written
  rw [readCell, cell]
  refine ⟨trivial, fun answer after moved => ?_⟩
  exact next value after cell (unmoved_of_written moved)

theorem readCell_unwritten (unwritten : ¬fetched.Written i)
    (next : ∀ value after, Strayed w after → post value after) :
    (readCell array fetched.cells i).wp handling post w := by
  rw [readCell]
  split
  · rename_i value cell
    exact absurd ⟨value, cell⟩ unwritten
  · refine ⟨trivial, fun value after moved => ?_⟩
    exact next value after (strayed_of_unwritten (.inl rfl) moved)
  · refine ⟨trivial, fun value after moved => ?_⟩
    exact next value after (strayed_of_unwritten (.inr rfl) moved)

end Reads

variable {session : SessionHandle} {owed : Prop}
  {left : Label → Locals → Watch Inventory Handling → Prop}

theorem looking {request : CryptokiCall} (free : request.listFree = true) :
    Keeps handling left (fun _ => Owing owed) (issue request) :=
  keeps_issue fun _ _ owing => ⟨trivial, fun _ _ moved => owing.move (unmoved_of_listFree free moved)⟩

theorem printing {text : String} : Keeps handling left (fun _ => Owing owed) (printf text) :=
  keeps_printf handling_quiet

theorem checking {name : String} {rv : CkRv} :
    Keeps handling (fun _ _ => Owing owed) (fun _ => Owing owed) (ckCheck name rv) :=
  keeps_ckCheck handling_quiet fun _ _ owing => owing

theorem reading {array : LocalArray} {capacity : Nat} {fetched : Listed capacity} {i : Nat}
    (written : fetched.Written i) :
    Keeps handling left (fun _ => Owing owed)
      (invoke (readCell array fetched.cells i) : Body Nat) := by
  intro l w owing
  rw [wp_invoke]
  refine readCell_written written fun value after _ unmoved => ?_
  exact owing.move unmoved

/-- A list call in the session; the cells it counts are written if it succeeds. -/
def Fills {capacity : Nat} (owed : Prop) (fetched : Listed capacity) (_ : Locals)
    (w : Watch Inventory Handling) : Prop :=
  Owing owed w ∧ (fetched.rv = ckrOk → ∀ i < fetched.count, fetched.Written i)

theorem fetchingSlots {count : Nat} :
    Carries handling left (fun _ => Owing owed) (Fills owed)
      (issue (.getSlotList true count)) := by
  intro l w owing
  refine ⟨trivial, fun fetched after moved => ?_⟩
  obtain ⟨⟨conforms, held, _, becomes⟩, kept, record⟩ := moved
  have opened : after.state.opened = true := by
    rw [becomes]
    exact owing.1
  have served : Served w.state ⟨.getSlotList true count, fetched⟩ := by
    intro unopened
    rw [owing.1] at unopened
    exact absurd unopened (by decide)
  refine ⟨⟨opened, ?_⟩, fun succeeded => conforms.full succeeded⟩
  rw [kept, record]
  exact (and_iff_left served).trans owing.2

theorem fetchingMechanisms {slot : SlotId} {count : Nat} :
    Carries handling left (fun _ => Owing owed) (Fills owed)
      (issue (.getMechanismList slot count)) := by
  intro l w owing
  refine ⟨trivial, fun fetched after moved => ?_⟩
  exact ⟨owing.move (unmoved_of_listFree rfl moved), fun succeeded => moved.1.1.full succeeded⟩

/-- What is done with the cells of a list that was fetched. -/
theorem ranging {capacity : Nat} {fetched : Listed capacity} (succeeded : fetched.rv = ckrOk)
    {body : Nat → Body Unit} {left : Label → Locals → Watch Inventory Handling → Prop}
    (each : ∀ i, fetched.Written i → Keeps handling left (fun _ => Owing owed) (body i)) :
    Carries handling left (Fills owed fetched) (fun _ _ => Owing owed)
      ((List.range fetched.count).forM body) := by
  intro l w fills
  have loop : Keeps handling left (fun _ => Owing owed) ((List.range fetched.count).forM body) :=
    .forM fun i member => each i (fills.2 succeeded i (List.mem_range.mp member))
  exact loop l w fills.1

theorem printingMechanisms {slot : SlotId} :
    Keeps handling left (fun _ => Owing owed) (printMechanisms slot) := by
  refine .bind (looking rfl) fun _ => ?_
  refine .ite (fun _ => ?_) fun _ => ?_
  · refine .bind printing fun _ => ?_
    refine .bind fetchingMechanisms fun mechBuf => ?_
    refine .ite (fun succeeded => ?_) ?_
    · exact ranging succeeded fun i written =>
        .bind (reading written) fun _ => keeps_printMechanism handling_quiet
    · exact fun _ => .returning fun _ _ fills => fills.1
  · exact keeps_nothing

theorem printingSlot {capacity : Nat} {slots : Listed capacity} {i : Nat}
    (written : slots.Written i) :
    Keeps handling left (fun _ => Owing owed) (printSlot slots.cells i) := by
  refine .bind (reading written) fun slot => ?_
  refine .bind printing fun _ => ?_
  refine .bind (looking rfl) fun _ => ?_
  refine .bind (keeps_printSlotInfo handling_quiet) fun _ => ?_
  refine .bind (looking rfl) fun _ => ?_
  refine .bind (keeps_printTokenInfo handling_quiet) fun _ => ?_
  exact printingMechanisms

/-- The return code of the search is ignored: a failing one owes the cells it counts. -/
theorem searching {maxObjectCount : Nat} :
    Carries handling left (fun _ => Owing True)
      (fun found _ => Owing (∀ i ∈ List.range found.count, found.Written i))
      (issue (.findObjects session maxObjectCount)) := by
  intro l w owing
  refine ⟨trivial, fun found after moved => ?_⟩
  obtain ⟨⟨conforms, held, _, becomes⟩, kept, record⟩ := moved
  have opened : after.state.opened = true := by
    rw [becomes, ← owing.1]
    simp only [Inventory.next]
    split <;> rfl
  refine ⟨opened, ?_⟩
  have owes : Served w.state ⟨.findObjects session maxObjectCount, found⟩ ↔
      ∀ i ∈ List.range found.count, found.Written i := by
    constructor
    · intro served i member
      by_cases succeeded : found.rv = ckrOk
      · exact conforms.full succeeded i (List.mem_range.mp member)
      · exact served succeeded i (List.mem_range.mp member)
    · intro all _ i inside
      exact all i (List.mem_range.mpr inside)
  rw [kept, record, owes, owing.2, and_true]
  rfl

/-- A cell that is read pays what is owed for it. -/
theorem paying {array : LocalArray} {found : Listed 64} {i : Nat} {rest : List Nat} :
    Carries handling left (fun _ => Owing (∀ j ∈ i :: rest, found.Written j))
      (fun _ _ => Owing (∀ j ∈ rest, found.Written j))
      (invoke (readCell array found.cells i) : Body Nat) := by
  intro l w owing
  rw [wp_invoke]
  by_cases written : found.Written i
  · refine readCell_written written fun value after _ unmoved => ?_
    have still := owing.move unmoved
    refine ⟨still.1, ?_⟩
    rw [still.2, List.forall_mem_cons]
    exact and_congr_right fun _ => and_iff_right written
  · refine readCell_unwritten written fun value after strayed => ?_
    refine ⟨strayed.opened.trans owing.1, iff_of_false ?_ ?_⟩
    · intro keeping
      have paid := (owing.2.mp (strayed.kept.mp keeping)).2
      exact written (paid i List.mem_cons_self)
    · rw [strayed.careless]
      exact fun careful => Bool.false_ne_true careful.1

theorem printingObject {found : Listed 64} {i : Nat} {rest : List Nat} :
    Carries handling left (fun _ => Owing (∀ j ∈ i :: rest, found.Written j))
      (fun _ _ => Owing (∀ j ∈ rest, found.Written j)) (printObject session found.cells i) := by
  refine .bind paying fun handle => ?_
  refine .bind (looking rfl) fun cls => ?_
  exact printing

theorem printingObjects {found : Listed 64} {cells : List Nat} :
    Carries handling left (fun _ => Owing (∀ i ∈ cells, found.Written i))
      (fun _ _ => Owing True) (cells.forM (printObject session found.cells)) := by
  induction cells with
  | nil =>
      refine .returning fun l w owing => ⟨owing.1, ?_⟩
      rw [owing.2]
      exact and_congr_right fun _ => iff_true_intro (List.forall_mem_nil _)
  | cons i cells ih => exact .bind printingObject fun _ => ih

end HandlingLists

section Suite

open HandlingLists

variable {session : SessionHandle}

/-- In the session the program leaves nothing owing. -/
def Pays (program : Program cryptoki Int) : Prop :=
  ∀ w, Owing True w → program.wp handling (fun _ => Owing True) w

theorem pays_demo {heading : String} {body : Body Unit}
    (carried : Keeps handling (fun _ _ => Owing True) (fun _ => Owing True) body) :
    Pays (demo session heading body []) := by
  intro w owing
  refine demo_wp handling_quiet ?_ carried (.returning fun _ _ => id)
  exact owing

theorem pays_runModuleInfo : Pays (runModuleInfo session) := by
  refine pays_demo ?_
  refine .bind (looking rfl) fun _ => ?_
  refine .bind checking fun _ => ?_
  refine .bind printing fun _ => ?_
  refine .bind printing fun _ => ?_
  refine .bind printing fun _ => ?_
  refine .bind printing fun _ => ?_
  refine .bind (looking rfl) fun _ => ?_
  refine .bind checking fun _ => ?_
  refine .bind printing fun _ => ?_
  refine .bind (looking rfl) fun _ => ?_
  refine .bind checking fun _ => ?_
  refine .bind printing fun _ => ?_
  refine .ite (fun _ => ?_) fun _ => ?_
  · refine .bind printing fun _ => ?_
    exact .jumping fun _ _ => id
  refine .bind fetchingSlots fun slots => ?_
  have checked : Carries handling (fun _ _ => Owing True) (Fills True slots)
      (fun _ l w => slots.rv = ckrOk ∧ Fills True slots l w)
      (ckCheck "p11->C_GetSlotList(CK_TRUE, slots, &tokenSlotCount)" slots.rv) :=
    carries_ckCheck handling_quiet (fun succeeded _ _ fills => ⟨succeeded, fills⟩)
      fun _ _ _ fills => fills.1
  have visited : Carries handling (fun _ _ => Owing True)
      (fun l w => slots.rv = ckrOk ∧ Fills True slots l w) (fun _ _ => Owing True)
      ((List.range slots.count).forM (printSlot slots.cells)) :=
    fun l w fills => ranging fills.1 (fun _ => printingSlot) l w fills.2
  refine .bind checked fun _ => ?_
  refine .bind visited fun _ => ?_
  refine .bind printing fun _ => ?_
  refine .bind (looking rfl) fun _ => ?_
  refine .bind checking fun _ => ?_
  refine .bind searching fun found => ?_
  refine .bind (looking rfl) fun _ => ?_
  refine .bind printing fun _ => ?_
  exact printingObjects

theorem pays_listFree {program : Program cryptoki Int} (free : IsListFree program) :
    Pays program := by
  intro w owing
  refine Program.wp_of_confining free ?_ owing
  intro request plain w owing
  exact ⟨trivial, fun _ _ moved => owing.move (unmoved_of_listFree plain moved)⟩

theorem pays_demos : ∀ entry ∈ demos session, Pays entry.2 := by
  intro entry member
  cases List.mem_cons.mp member with
  | inl same =>
      rw [same]
      exact pays_runModuleInfo
  | inr later => exact pays_listFree (listFree_laterDemos entry later)

theorem pays_inSession : Pays (inSession session) := by
  intro w owing
  refine inSession_wp handling_quiet (runAll_wp handling_quiet pays_demos owing) ?_
  intro rc after still
  exact ⟨trivial, fun _ last moved => still.move (unmoved_of_listFree rfl moved)⟩

/-- The run was careful exactly if every step met its condition. -/
def Balanced (w : Watch Inventory Handling) : Prop := w.record.careful = true ↔ w.kept

theorem Owing.balanced {w : Watch Inventory Handling} (owing : Owing True w) : Balanced w := by
  rw [Balanced, owing.2, and_true]

theorem Unopened.balanced {w : Watch Inventory Handling} (unopened : Unopened w) : Balanced w := by
  rw [Balanced, unopened.record]
  exact iff_of_true rfl unopened.kept

theorem Balanced.move {before after : Watch Inventory Handling} (balanced : Balanced before)
    (unmoved : Unmoved before after) : Balanced after := by
  rw [Balanced, unmoved.record]
  exact balanced.trans unmoved.kept.symm

theorem kept_of_listFree {held : Watch Inventory Handling → Prop} {request : CryptokiCall}
    (free : request.listFree = true)
    (move : ∀ before after, held before → Unmoved before after → held after) :
    Kept handling held request := by
  intro before met
  refine ⟨trivial, fun answer after moved => ?_⟩
  exact move before after met (unmoved_of_listFree free moved)

theorem unopened_kept {request : CryptokiCall} (free : request.listFree = true) :
    Kept handling Unopened request :=
  kept_of_listFree free fun _ _ => Unopened.move

theorem balanced_kept {request : CryptokiCall} (free : request.listFree = true) :
    Kept handling Balanced request :=
  kept_of_listFree free fun _ _ => Balanced.move

/-- The session is opened on the slot that was read. -/
theorem openSession_balances {w after : Watch Inventory Handling} {slot : SlotId} {opened : Created}
    (moved : handling.moves w ⟨.openSession slot, opened⟩ after)
    (balanced : w.record.careful = true ∧ slot ∈ w.record.written ↔ w.kept) : Owing True after := by
  obtain ⟨⟨_, held, _, becomes⟩, kept, record⟩ := moved
  refine ⟨by rw [becomes]; rfl, ?_⟩
  have careful : (w.record.record ⟨.openSession slot, opened⟩).careful = true ↔
      w.record.careful = true ∧ slot ∈ w.record.written := by
    rw [Handling.record, Bool.and_eq_true, decide_eq_true_iff]
  rw [kept, record, careful, and_true, balanced]
  exact and_iff_left trivial

/-- What the suite reads as the first slot is in the array exactly if the step met its
condition. -/
theorem readFirst_balances {w after : Watch Inventory Handling} {count : Nat}
    {slots : Listed count} (unopened : Unopened w)
    (moved : handling.moves w ⟨.getSlotList true count, slots⟩ after) :
    (readCell .slots slots.cells 0).wp handling
      (fun slot w => w.record.careful = true ∧ slot ∈ w.record.written ↔ w.kept) after := by
  obtain ⟨⟨conforms, held, _, becomes⟩, kept, record⟩ := moved
  have served : Served w.state ⟨.getSlotList true count, slots⟩ ↔ slots.Written 0 := by
    by_cases answered : slots.Answered
    · have first := Listed.Fetches.written_zero_iff conforms answered
      constructor
      · intro served
        exact first.mpr ((served unopened.opened).1 answered)
      · intro written _
        exact ⟨fun _ => first.mp written, fun failed => absurd answered failed⟩
    · constructor
      · intro served
        exact (served unopened.opened).2 answered
      · intro written _
        exact ⟨fun other => absurd other answered, fun _ => written⟩
  have keeping : after.kept ↔ slots.Written 0 := by
    rw [kept, served]
    exact and_iff_right unopened.kept
  have recorded : after.record = ⟨slots.cells.toList.reduceOption, true⟩ := by
    rw [record, unopened.record]
    rfl
  by_cases written : slots.Written 0
  · refine readCell_written written fun slot read cell unmoved => ?_
    have member : slot ∈ after.record.written := by
      rw [recorded]
      exact Listed.Written.mem cell
    rw [unmoved.record, unmoved.kept]
    exact iff_of_true ⟨by rw [recorded], member⟩ (keeping.mpr written)
  · refine readCell_unwritten written fun slot stray strayed => ?_
    refine iff_of_false ?_ ?_
    · rw [strayed.careless]
      exact fun careful => Bool.false_ne_true careful.1
    · rw [strayed.kept]
      exact fun still => written (keeping.mp still)

theorem inModule_balances {w : Watch Inventory Handling} (unopened : Unopened w) :
    inModule.wp handling (fun _ => Balanced) w := by
  refine (unopened_kept rfl).call_wp unopened fun slotCount w unopened => ?_
  split
  · refine (unopened_kept rfl).call_wp unopened fun _ w unopened => ?_
    exact (unopened_kept rfl).call_wp unopened fun _ w unopened => unopened.balanced
  · refine call_step trivial fun slots after moved => ?_
    refine Program.wp_bind.mpr (Program.wp_mono (readFirst_balances unopened moved) ?_)
    intro slot w balanced
    refine call_wp (handling_quiet w _) fun _ => call_step trivial fun opened after moved => ?_
    have owing := openSession_balances moved balanced
    split
    · exact (balanced_kept rfl).call_wp owing.balanced fun _ _ balanced => balanced
    · exact Program.wp_mono (pays_inSession after owing) fun _ _ still => still.balanced

theorem unopened_surrounds :
    Surrounds handling Unopened Unopened (fun _ => Balanced) (fun _ => Balanced) where
  loading _ := unopened_kept rfl
  resolving _ := unopened_kept rfl
  listing := unopened_kept rfl
  printing _ := unopened_kept rfl
  reporting _ := unopened_kept rfl
  initializing := Kept.initializing (unopened_kept rfl)
  refused _ := Unopened.balanced
  finalizing _ := @balanced_kept .cFinalize rfl
  unloading _ := balanced_kept rfl

theorem main_balances {argv : List String} {w : Watch Inventory Handling}
    (unopened : Unopened w) : (main argv).wp handling (fun _ => Balanced) w :=
  unopened_surrounds.main_wp (fun _ => inModule_balances) unopened

/-- A run of the suite is careful exactly if every step of the module met its condition. -/
theorem main_careful_iff {argv : List String} {trace : List (Event cryptoki)} {rc : Int}
    {held : Holdings} {last : Inventory} (run : (main argv).Runs trace rc)
    (history : conforming.History (.start held) trace last) :
    (Handling.of trace).careful = true ↔
      (conforming.meeting Served).History (.start held) trace last :=
  run.meets_iff (fun _ (record : Handling) => record.careful = true) history
    (main_balances ⟨rfl, trivial, rfl⟩)

end Suite

end Se05x.Pkcs11
