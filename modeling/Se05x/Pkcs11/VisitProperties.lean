import Se05x.Pkcs11.HandlingProperties
import Se05x.Pkcs11.Reference

/-!
# What the module info visits

When no other call fails, the demo visits every token slot, mechanism and object exactly if
every step leaves nothing out.
-/

set_option autoImplicit false

namespace Se05x.Pkcs11

open Interaction Procedure

def visits (trace : List (Event cryptoki)) : List Visit := trace.filterMap visit

def noteVisit (seen : List Visit) (event : Event cryptoki) : List Visit :=
  seen ++ (visit event).toList

theorem foldl_noteVisit {trace : List (Event cryptoki)} {seen : List Visit} :
    trace.foldl noteVisit seen = seen ++ visits trace := by
  induction trace generalizing seen with
  | nil => exact (List.append_nil seen).symm
  | cons event trace ih =>
      rw [List.foldl_cons, ih, noteVisit, List.append_assoc, visits, visits, List.filterMap_cons]
      cases visit event <;> rfl

def visiting : Contract cryptoki (Watch Inventory (List Visit)) :=
  succeeding.watching Complete noteVisit

/-- A module that holds these mechanisms and objects, with these slots listed last, has
shown this much; its steps were complete under this condition. -/
structure Looked (held : Holdings) (listed : List SlotId) (met : Prop) (seen : List Visit)
    (w : Watch Inventory (List Visit)) : Prop where
  mechanisms : w.state.held.mechanisms = held.mechanisms
  objects : w.state.held.objects = held.objects
  listed : w.state.listed = listed
  kept : w.kept ↔ met
  record : w.record = seen

theorem visiting_quiet : Quiet visiting := by
  refine fun w text => ⟨trivial, fun answer after moved => ?_⟩
  obtain ⟨⟨⟨_, held, same, becomes⟩, _⟩, kept, record⟩ := moved
  have stays : held = w.state.held := same
  rw [stays] at becomes
  exact Watch.ext becomes (kept.trans (and_true _)) (record.trans (List.append_nil _))

namespace Visiting

variable {held : Holdings} {listed : List SlotId} {met : Prop} {seen : List Visit}
  {w after : Watch Inventory (List Visit)} {request : CryptokiCall} {answer : request.Answer}
  {left : Label → Locals → Watch Inventory (List Visit) → Prop}
  {invariant pre : Locals → Watch Inventory (List Visit) → Prop}
  {ends : Unit → Locals → Watch Inventory (List Visit) → Prop}

/-- Between these two the module's mechanisms and objects stay. -/
def Stays (request : CryptokiCall) : Prop :=
  ∀ before after : Holdings, before.MayBecome request.kind after →
    after.mechanisms = before.mechanisms ∧ after.objects = before.objects

theorem move (known : Looked held listed met seen w) (stays : Stays request)
    (moved : visiting.moves w ⟨request, answer⟩ after) :
    Looked held (w.state.next ⟨request, answer⟩).listed (met ∧ Complete w.state ⟨request, answer⟩)
        (seen ++ (visit ⟨request, answer⟩).toList) after ∧
      after.state.remaining = (w.state.next ⟨request, answer⟩).remaining := by
  obtain ⟨⟨⟨_, next, changed, becomes⟩, _⟩, kept, record⟩ := moved
  obtain ⟨mechanisms, objects⟩ := stays _ _ changed
  refine ⟨⟨?_, ?_, ?_, ?_, ?_⟩, ?_⟩
  · rw [becomes]
    exact mechanisms.trans known.mechanisms
  · rw [becomes]
    exact objects.trans known.objects
  · rw [becomes]
  · rw [kept]
    exact and_congr_left fun _ => known.kept
  · rw [record, known.record]
    rfl
  · rw [becomes]

theorem printing {text : String} : Keeps visiting left invariant (printf text) :=
  keeps_printf visiting_quiet

theorem passing {name : String} {rv : CkRv} (succeeded : rv = ckrOk) :
    Keeps visiting left invariant (ckCheck name rv) :=
  carries_ckCheck visiting_quiet (fun _ _ _ kept => kept) fun failed => absurd succeeded failed

theorem refusing {name : String} {rv : CkRv} (failed : rv ≠ ckrOk)
    (leaving : ∀ l w, pre l w → left .cleanup l.fail w) :
    Carries visiting left pre (fun _ _ _ => False) (ckCheck name rv) :=
  carries_ckCheck visiting_quiet (fun succeeded => absurd succeeded failed) fun _ => leaving

/-- A call that shows nothing and leaves nothing out. -/
def Silent (request : CryptokiCall) : Prop :=
  ∀ (s : Inventory) answer, s.next ⟨request, answer⟩ = s ∧
    visit ⟨request, answer⟩ = none ∧ Complete s ⟨request, answer⟩

theorem move_silent (known : Looked held listed met seen w) (stays : Stays request)
    (silent : Silent request) (moved : visiting.moves w ⟨request, answer⟩ after) :
    Looked held listed met seen after := by
  obtain ⟨still, unshown, complete⟩ := silent w.state answer
  have next := (move known stays moved).1
  rw [still, known.listed, unshown, eq_true complete, and_true, Option.toList_none,
    List.append_nil] at next
  exact next

theorem looking (stays : Stays request) (silent : Silent request) :
    Carries visiting left (fun _ => Looked held listed met seen)
      (fun answer _ w => Succeeds ⟨request, answer⟩ ∧ Looked held listed met seen w)
      (issue request) :=
  fun _ _ known => ⟨trivial, fun _ _ moved => ⟨moved.1.2, move_silent known stays silent moved⟩⟩

/-- A call that shows one thing. -/
theorem showing (new : Visit) (stays : Stays request)
    (shows : ∀ (s : Inventory) answer, s.next ⟨request, answer⟩ = s ∧
      visit ⟨request, answer⟩ = some new ∧ Complete s ⟨request, answer⟩) :
    Carries visiting left (fun _ => Looked held listed met seen)
      (fun _ _ => Looked held listed met (seen ++ [new])) (issue request) := by
  intro l w known
  refine ⟨trivial, fun answer after moved => ?_⟩
  obtain ⟨still, shown, complete⟩ := shows w.state answer
  have next := (move known stays moved).1
  rw [still, known.listed, shown, eq_true complete, and_true] at next
  exact next

theorem countingSlots :
    Carries visiting left (fun _ => Looked held listed True [])
      (fun counted _ w => counted.rv = ckrOk ∧ ∃ slots, counted.count = slots.length ∧
        Looked held slots (slots = [] → held.objects = []) [] w)
      (issue (.countSlots true)) := by
  intro l w known
  refine ⟨trivial, fun counted after moved => ?_⟩
  have succeeded : counted.rv = ckrOk := moved.1.2
  have next := (move known (fun _ _ => id) moved).1
  rw [true_and] at next
  refine ⟨succeeded, w.state.held.slots, moved.1.1.1 succeeded, ?_⟩
  rw [← known.objects]
  exact next

theorem fetchingSlots {count : Nat} :
    Carries visiting left (fun _ => Looked held listed True [])
      (fun fetched _ w => fetched.Answered ∧ ∃ slots, fetched.Fetches slots ∧
        Looked held slots (slots.length ≤ count) [] w)
      (issue (.getSlotList true count)) := by
  intro l w known
  refine ⟨trivial, fun fetched after moved => ?_⟩
  have next := (move known (fun _ _ => id) moved).1
  rw [true_and] at next
  exact ⟨moved.1.2, w.state.held.slots, moved.1.1.1, next⟩

theorem countingMechanisms {slot : SlotId} :
    Carries visiting left (fun _ => Looked held listed met seen)
      (fun counted _ w => counted.rv = ckrOk ∧ counted.count = (held.mechanisms slot).length ∧
        Looked held listed met seen w)
      (issue (.countMechanisms slot)) := by
  intro l w known
  refine ⟨trivial, fun counted after moved => ?_⟩
  have succeeded : counted.rv = ckrOk := moved.1.2
  have counts : counted.count = (w.state.held.mechanisms slot).length := moved.1.1.1 succeeded
  rw [known.mechanisms] at counts
  have silent : Silent (.countMechanisms slot) := fun _ _ => ⟨rfl, rfl, trivial⟩
  exact ⟨succeeded, counts, move_silent known (fun _ _ => id) silent moved⟩

theorem fetchingMechanisms {slot : SlotId} {count : Nat} :
    Carries visiting left (fun _ => Looked held listed met seen)
      (fun fetched _ w => fetched.Answered ∧ fetched.Fetches (held.mechanisms slot) ∧
        Looked held listed
          (met ∧ (held.mechanisms slot).length ≤ count) seen w)
      (issue (.getMechanismList slot count)) := by
  intro l w known
  refine ⟨trivial, fun fetched after moved => ⟨moved.1.2, ?_⟩⟩
  have fetches : fetched.Fetches (w.state.held.mechanisms slot) := moved.1.1.1
  have next : Looked held w.state.listed (met ∧ (w.state.held.mechanisms slot).length ≤ count)
      (seen ++ []) after := (move known (fun _ _ => id) moved).1
  rw [known.mechanisms, known.listed, List.append_nil] at next
  rw [known.mechanisms] at fetches
  exact ⟨fetches, next⟩

theorem startingSearch {session : SessionHandle} :
    Carries visiting left (fun _ => Looked held listed met seen)
      (fun rv _ w => rv = ckrOk ∧ Looked held listed met seen w ∧ w.state.remaining = held.objects)
      (issue (.findObjectsInit session)) := by
  intro l w known
  refine ⟨trivial, fun rv after moved => ?_⟩
  have succeeded : rv = ckrOk := moved.1.2
  obtain ⟨next, remaining⟩ := move known (fun _ _ => id) moved
  have started : w.state.next ⟨.findObjectsInit session, rv⟩ =
      { w.state with remaining := w.state.held.objects } := if_pos succeeded
  rw [started] at next remaining
  refine ⟨succeeded, ⟨next.mechanisms, next.objects, next.listed.trans known.listed, ?_, ?_⟩, ?_⟩
  · exact next.kept.trans (and_iff_left trivial)
  · exact next.record.trans (List.append_nil seen)
  · exact remaining.trans known.objects

theorem searching {session : SessionHandle} {maxObjectCount : Nat} :
    Carries visiting left
      (fun _ w => Looked held listed met seen w ∧ w.state.remaining = held.objects)
      (fun found _ w => found.Holds (held.objects.take found.count) ∧
        Looked held listed (met ∧ found.count = held.objects.length) seen w)
      (issue (.findObjects session maxObjectCount)) := by
  intro l w entered
  obtain ⟨known, remaining⟩ := entered
  refine ⟨trivial, fun found after moved => ?_⟩
  have succeeded : found.rv = ckrOk := moved.1.2
  have handed : found.HandsOut w.state.remaining := moved.1.1.1
  have next := (move known (fun _ _ => id) moved).1
  have given : w.state.next ⟨.findObjects session maxObjectCount, found⟩ =
      { w.state with remaining := w.state.remaining.drop found.count } := if_pos succeeded
  rw [given] at next
  rw [remaining] at handed
  refine ⟨(handed succeeded).2, next.mechanisms, next.objects, next.listed.trans known.listed, ?_, ?_⟩
  · rw [← remaining]
    exact next.kept
  · exact next.record.trans (List.append_nil seen)

/-- A cell of a list that was fetched is read. -/
theorem reading {array : LocalArray} {capacity : Nat} {fetched : Listed capacity}
    {values : List Nat} (holds : fetched.Holds values) {i : Nat} (inside : i < values.length) :
    Carries visiting left (fun _ => Looked held listed met seen)
      (fun value _ w => value = values[i] ∧ Looked held listed met
        (seen ++ (visit ⟨.readCell array (.written values[i]), ()⟩).toList) w)
      (invoke (readCell array fetched.cells i) : Body Nat) := by
  intro l w known
  rw [wp_invoke, readCell, holds.cell inside]
  refine ⟨trivial, fun answer after moved => ⟨rfl, ?_⟩⟩
  have stays : Stays (.readCell array (.written values[i])) := by
    intro before after same
    rw [show after = before from same]
    exact ⟨rfl, rfl⟩
  have next : Looked held w.state.listed (met ∧ True)
      (seen ++ (visit ⟨.readCell array (.written values[i]), ()⟩).toList) after :=
    (move known stays moved).1
  rw [known.listed, and_true] at next
  exact next

end Visiting

/-- Slots whose mechanisms fit the array. -/
def Holdings.Fits (held : Holdings) (slot : SlotId) : Prop := (held.mechanisms slot).length ≤ 128

instance {held : Holdings} {slot : SlotId} : Decidable (held.Fits slot) :=
  inferInstanceAs (Decidable (_ ≤ _))

/-- What is shown of a slot: mechanisms that do not fit the array are all left out. -/
def Holdings.shownMechanisms (held : Holdings) (slot : SlotId) : List Visit :=
  if held.Fits slot then held.mechanismVisits slot else []

section Demo

open Visiting

variable {held : Holdings} {listed : List SlotId} {met : Prop} {seen : List Visit}
  {left : Label → Locals → Watch Inventory (List Visit) → Prop} {slot : SlotId}

theorem Looked.recast {other : Prop} {shown : List Visit} {w : Watch Inventory (List Visit)}
    (known : Looked held listed met seen w) (same : met ↔ other) (equal : seen = shown) :
    Looked held listed other shown w :=
  ⟨known.mechanisms, known.objects, known.listed, known.kept.trans same, known.record.trans equal⟩

/-- A loop over the cells of a list shows what each round shows. -/
theorem cells_show {capacity : Nat} {fetched : Listed capacity} {values : List Nat}
    (meets : Nat → Prop) (shows : Nat → List Visit) {body : Nat → Body Unit}
    (holds : fetched.Holds values)
    (each : ∀ i (inside : i < values.length) met seen,
      Carries visiting left (fun _ => Looked held listed met seen)
        (fun _ _ => Looked held listed (met ∧ meets values[i]) (seen ++ shows values[i])) (body i)) :
    Carries visiting left (fun _ => Looked held listed met seen)
      (fun _ _ => Looked held listed (met ∧ ∀ value ∈ values, meets value)
        (seen ++ values.flatMap shows))
      ((List.range fetched.count).forM body) := by
  have round : ∀ i < fetched.count, Carries visiting left
      (fun _ => Looked held listed (met ∧ ∀ value ∈ values.take i, meets value)
        (seen ++ (values.take i).flatMap shows))
      (fun _ _ => Looked held listed (met ∧ ∀ value ∈ values.take (i + 1), meets value)
        (seen ++ (values.take (i + 1)).flatMap shows)) (body i) := by
    intro i inside
    have within : i < values.length := holds.1 ▸ inside
    refine (each i within _ _).weaken fun _ _ _ known => known.recast ?_ ?_
    · rw [List.take_succ_eq_append_getElem within, List.forall_mem_append,
        List.forall_mem_singleton, and_assoc]
    · rw [List.take_succ_eq_append_getElem within, List.flatMap_append, List.flatMap_singleton,
        List.append_assoc]
  have loop := Carries.range (fun i _ => Looked held listed
    (met ∧ ∀ value ∈ values.take i, meets value) (seen ++ (values.take i).flatMap shows)) round
  intro l w known
  have start : Looked held listed (met ∧ ∀ value ∈ values.take 0, meets value)
      (seen ++ (values.take 0).flatMap shows) w :=
    known.recast (and_iff_left (List.forall_mem_nil _)).symm (List.append_nil seen).symm
  have ended := loop l w start
  rw [holds.1, List.take_length] at ended
  rw [holds.1]
  exact ended

theorem mechanismCells_show {capacity : Nat} {fetched : Listed capacity} {mechanisms : List Nat}
    (holds : fetched.Holds mechanisms) :
    Carries visiting left (fun _ => Looked held listed met seen)
      (fun _ _ => Looked held listed met (seen ++ mechanisms.map .mechanism))
      ((List.range fetched.count).forM fun m => do
        let mechanism ← invoke (readCell .mechBuf fetched.cells m)
        printMechanism mechanism) := by
  refine (cells_show (fun _ => True) (fun mechanism => [.mechanism mechanism]) holds
    fun i inside met seen => ?_).weaken fun _ _ _ known => ?_
  · refine .bind (reading holds inside) fun mechanism => ?_
    refine .given fun _ => (keeps_printMechanism visiting_quiet).weaken fun _ _ _ known => ?_
    exact known.recast (and_iff_left trivial).symm rfl
  · refine known.recast (and_iff_left fun _ _ => trivial) ?_
    rw [List.map_eq_flatMap]

theorem printMechanisms_shows :
    Carries visiting left (fun _ => Looked held listed met seen)
      (fun _ _ => Looked held listed (met ∧ held.Fits slot) (seen ++ held.shownMechanisms slot))
      (printMechanisms slot) := by
  refine .bind countingMechanisms fun counted => ?_
  refine .given fun succeeded => ?_
  refine .given fun counts => ?_
  refine .ite (fun some => ?_) fun none => ?_
  · refine .bind printing fun _ => ?_
    refine .bind fetchingMechanisms fun fetched => ?_
    refine .given fun answered => ?_
    refine .given fun fetches => ?_
    refine .ite (fun filled => ?_) fun failed => ?_
    · obtain ⟨fits, holds⟩ := fetches.filled filled
      have short : held.Fits slot := fits.trans (Nat.min_le_right ..)
      refine (mechanismCells_show holds).weaken fun _ _ _ known => known.recast ?_ ?_
      · exact and_congr_right fun _ => iff_of_true fits short
      · rw [Holdings.shownMechanisms, if_pos short]
        rfl
    · obtain ⟨exceeds, _⟩ := fetches.refused (answered.resolve_left failed)
      have long : ¬held.Fits slot := by
        rw [Holdings.Fits]
        omega
      refine .returning fun _ _ known => known.recast ?_ ?_
      · exact and_congr_right fun _ => iff_of_false (Nat.not_le_of_lt exceeds) long
      · rw [Holdings.shownMechanisms, if_neg long, List.append_nil]
  · have zero : counted.count = 0 :=
      Nat.eq_zero_of_not_pos fun positive => none ⟨succeeded, positive⟩
    have empty : held.mechanisms slot = [] := List.length_eq_zero_iff.mp (counts.symm.trans zero)
    have short : held.Fits slot := by
      rw [Holdings.Fits, empty]
      exact Nat.zero_le _
    refine .returning fun _ _ known => known.recast (and_iff_left short).symm ?_
    rw [Holdings.shownMechanisms, if_pos short, Holdings.mechanismVisits, empty, List.map_nil,
      List.append_nil]

theorem printSlot_shows {capacity : Nat} {slots : Listed capacity} {values : List SlotId}
    (holds : slots.Holds values) {i : Nat} (inside : i < values.length) :
    Carries visiting left (fun _ => Looked held listed met seen)
      (fun _ _ => Looked held listed (met ∧ held.Fits values[i])
        (seen ++ .slot values[i] :: held.shownMechanisms values[i]))
      (printSlot slots.cells i) := by
  refine .bind (reading holds inside) fun slot => ?_
  refine .given fun same => ?_
  subst same
  refine .bind printing fun _ => ?_
  refine .bind (showing (.slot values[i]) (fun _ _ => id) fun _ _ => ⟨rfl, rfl, trivial⟩)
    fun slotInfo => ?_
  refine .bind (keeps_printSlotInfo visiting_quiet) fun _ => ?_
  refine .bind (looking (fun _ _ => id) fun _ _ => ⟨rfl, rfl, trivial⟩) fun tokenInfo => ?_
  refine .given fun _ => ?_
  refine .bind (keeps_printTokenInfo visiting_quiet) fun _ => ?_
  refine printMechanisms_shows.weaken fun _ _ _ known => known.recast Iff.rfl ?_
  rw [List.append_assoc, List.append_assoc]
  rfl

theorem printObject_shows {session : SessionHandle} {found : Listed 64}
    {values : List ObjectHandle} (holds : found.Holds values) {i : Nat}
    (inside : i < values.length) :
    Carries visiting left (fun _ => Looked held listed met seen)
      (fun _ _ => Looked held listed met (seen ++ [.object values[i]]))
      (printObject session found.cells i) := by
  refine .bind (reading holds inside) fun handle => ?_
  refine .given fun same => ?_
  subst same
  refine .bind (showing (.object values[i]) (fun _ _ => id) fun _ _ => ⟨rfl, rfl, trivial⟩) ?_
  refine fun cls => printing.weaken fun _ _ _ known => known.recast Iff.rfl ?_
  rw [List.append_assoc]
  rfl

/-- Everything has been shown exactly if every step was complete. -/
def Told (w : Watch Inventory (List Visit)) : Prop :=
  w.record = w.state.held.everything w.state.listed ↔ w.kept

theorem Looked.told {w : Watch Inventory (List Visit)} (known : Looked held listed met seen w)
    (same : seen = held.everything listed ↔ met) : Told w := by
  have everything : w.state.held.everything w.state.listed = held.everything listed := by
    simp only [Holdings.everything, Holdings.mechanismVisits, known.mechanisms, known.objects,
      known.listed]
  rw [Told, everything, known.record]
  exact same.trans known.kept.symm

theorem length_flatMap_le {Entry Item : Type} {entries : List Entry} {part whole : Entry → List Item}
    (le : ∀ entry, (part entry).length ≤ (whole entry).length) :
    (entries.flatMap part).length ≤ (entries.flatMap whole).length ∧
      ((entries.flatMap whole).length ≤ (entries.flatMap part).length →
        ∀ entry ∈ entries, (whole entry).length ≤ (part entry).length) := by
  induction entries with
  | nil => exact ⟨Nat.le_refl _, fun _ => List.forall_mem_nil _⟩
  | cons entry rest ih =>
      obtain ⟨shorter, only⟩ := ih
      have first := le entry
      simp only [List.flatMap_cons, List.length_append]
      refine ⟨by omega, fun longer => ?_⟩
      rw [List.forall_mem_cons]
      exact ⟨by omega, only (by omega)⟩

/-- What the demo shows is everything only if nothing was left out on the way. -/
theorem shown_eq_everything_iff {slots : List SlotId} {count : Nat}
    (available : count ≤ held.objects.length) :
    slots.flatMap (fun slot => .slot slot :: held.shownMechanisms slot) ++
        (held.objects.take count).map .object = held.everything slots ↔
      (∀ slot ∈ slots, held.Fits slot) ∧ count = held.objects.length := by
  have part : ∀ slot, (Visit.slot slot :: held.shownMechanisms slot).length ≤
      (Visit.slot slot :: held.mechanismVisits slot).length := by
    intro slot
    rw [Holdings.shownMechanisms]
    split
    · exact Nat.le_refl _
    · exact Nat.le_add_left _ _
  obtain ⟨shorter, only⟩ := @length_flatMap_le _ _ slots _ _ part
  constructor
  · intro same
    have lengths := congrArg List.length same
    rw [Holdings.everything, List.length_append, List.length_append, List.length_map,
      List.length_map, List.length_take_of_le available] at lengths
    refine ⟨fun slot member => ?_, by omega⟩
    have longest := only (by omega) slot member
    by_contra long
    rw [Holdings.shownMechanisms, if_neg long, List.length_singleton, List.length_cons,
      Holdings.mechanismVisits, List.length_map] at longest
    rw [Holdings.Fits] at long
    omega
  · intro complete
    obtain ⟨fits, all⟩ := complete
    rw [Holdings.everything, all, List.take_length]
    refine congrArg (· ++ _) (List.flatMap_congr fun slot member => ?_)
    rw [Holdings.shownMechanisms, if_pos (fits slot member)]

section Body

variable {session : SessionHandle} {slots : List SlotId}

abbrev EndsTold (pre : Watch Inventory (List Visit) → Prop) (body : Body Unit) : Prop :=
  Carries visiting (fun _ _ => Told) (fun _ => pre) (fun _ _ => Told) body

/-- From the listed slots to the end. -/
theorem objects_told :
    EndsTold (Looked held slots (∀ slot ∈ slots, held.Fits slot)
        (slots.flatMap fun slot => .slot slot :: held.shownMechanisms slot))
      (do
        printf "\n  == Objects in current session ==\n"
        let searching ← issue (.findObjectsInit session)
        ckCheck "p11->C_FindObjectsInit(session, NULL_PTR, 0)" searching
        let handles ← issue (.findObjects session 64)
        let _ ← issue (.findObjectsFinal session)
        printf s!"    Objects found: {handles.count}\n"
        (List.range handles.count).forM (printObject session handles.cells)) := by
  refine .bind printing fun _ => ?_
  refine .bind startingSearch fun started => ?_
  refine .given fun succeeded => ?_
  refine .bind (passing succeeded) fun _ => ?_
  refine .bind searching fun handles => ?_
  refine .given fun holds => ?_
  refine .bind (looking (fun _ _ => id) fun _ _ => ⟨rfl, rfl, trivial⟩) fun _ => ?_
  refine .given fun _ => ?_
  refine .bind printing fun _ => ?_
  have available : handles.count ≤ held.objects.length := by
    have counts := holds.1
    rw [List.length_take] at counts
    omega
  refine (cells_show (fun _ => True) (fun handle => [.object handle]) holds
    fun i inside met seen => ?_).weaken fun _ _ _ known => known.told ?_
  · exact (printObject_shows holds inside).weaken fun _ _ _ known =>
      known.recast (and_iff_left trivial).symm rfl
  · rw [← List.map_eq_flatMap, shown_eq_everything_iff available]
    exact (and_iff_left fun _ _ => trivial).symm

theorem slotCells_show {capacity : Nat} {fetched : Listed capacity} (holds : fetched.Holds slots) :
    Carries visiting left (fun _ => Looked held slots True [])
      (fun _ _ => Looked held slots (∀ slot ∈ slots, held.Fits slot)
        (slots.flatMap fun slot => .slot slot :: held.shownMechanisms slot))
      ((List.range fetched.count).forM (printSlot fetched.cells)) := by
  refine (cells_show held.Fits (fun slot => .slot slot :: held.shownMechanisms slot) holds
    fun i inside met seen => printSlot_shows holds inside).weaken fun _ _ _ known => ?_
  exact known.recast (and_iff_right trivial) (List.nil_append _)

/-- A slot list that does not fit the array ends the demo before it has shown anything. -/
theorem refused_told {w : Watch Inventory (List Visit)} {count : Nat}
    (known : Looked held slots (slots.length ≤ count) [] w) (exceeds : count < slots.length) :
    Told w := by
  refine known.told (iff_of_false ?_ (Nat.not_le_of_lt exceeds))
  have shown : slots ≠ [] := List.ne_nil_of_length_pos (Nat.zero_lt_of_lt exceeds)
  obtain ⟨slot, rest, rfl⟩ := List.exists_cons_of_ne_nil shown
  exact nofun

theorem demo_told {heading : String} {body : Body Unit} {w : Watch Inventory (List Visit)}
    (carried : EndsTold (Looked held listed True []) body) (known : Looked held listed True [] w) :
    (demo session heading body []).wp visiting (fun _ => Told) w := by
  have entering : (fun _ => Looked held listed True []) Locals.start w := known
  exact demo_wp visiting_quiet entering carried (.returning fun _ _ told => told)

theorem runModuleInfo_told {w : Watch Inventory (List Visit)}
    (known : Looked held listed True [] w) :
    (runModuleInfo session).wp visiting (fun _ => Told) w := by
  refine demo_told ?_ known
  refine .bind (looking (fun _ _ => id) fun _ _ => ⟨rfl, rfl, trivial⟩) fun libInfo => ?_
  refine .given fun succeeded => ?_
  refine .bind (passing succeeded) fun _ => ?_
  refine .bind printing fun _ => ?_
  refine .bind printing fun _ => ?_
  refine .bind printing fun _ => ?_
  refine .bind printing fun _ => ?_
  refine .bind (looking (fun _ _ => id) fun _ _ => ⟨rfl, rfl, trivial⟩) fun allSlotCount => ?_
  refine .given fun succeeded => ?_
  refine .bind (passing succeeded) fun _ => ?_
  refine .bind printing fun _ => ?_
  refine .bind countingSlots fun tokenSlotCount => ?_
  refine .given fun succeeded => ?_
  refine .unpacking fun counted => ?_
  refine .given fun counts => ?_
  refine .bind (passing succeeded) fun _ => ?_
  refine .bind printing fun _ => ?_
  refine .ite (fun zero => ?_) fun nonzero => ?_
  · have empty : counted = [] := List.length_eq_zero_iff.mp (counts.symm.trans zero)
    refine .bind printing fun _ => .jumping fun _ w known => known.told ?_
    rw [empty, Holdings.everything, List.flatMap_nil, List.nil_append]
    constructor
    · intro none _
      exact List.map_eq_nil_iff.mp none.symm
    · intro none
      rw [none rfl, List.map_nil]
  · have present : counted ≠ [] := by
      rintro rfl
      exact nonzero counts
    refine .entering ?_ fun _ _ known =>
      known.recast (iff_true_intro fun empty => absurd empty present) rfl
    refine .bind fetchingSlots fun fetched => ?_
    refine .given fun answered => ?_
    refine .unpacking fun slots => ?_
    refine .given fun fetches => ?_
    by_cases filled : fetched.rv = ckrOk
    · obtain ⟨fits, holds⟩ := fetches.filled filled
      refine .bind (passing filled) fun _ => ?_
      refine .entering ?_ fun _ _ known => known.recast (iff_true_intro fits) rfl
      refine .bind (slotCells_show holds) fun _ => ?_
      exact objects_told
    · obtain ⟨exceeds, _⟩ := fetches.refused (answered.resolve_left filled)
      have ended : ∀ (_ : Locals) w, Looked held slots (slots.length ≤ min tokenSlotCount.count 8) [] w →
          Told w := fun _ _ known => refused_told known exceeds
      exact .bind (refusing filled ended) fun _ _ _ => False.elim

/-- When no other call fails, the demo shows everything exactly if every step is complete. -/
theorem runModuleInfo_shows_iff {trace : List (Event cryptoki)} {rc : Int} {first last : Inventory}
    (run : (runModuleInfo session).Runs trace rc) (history : succeeding.History first trace last) :
    visits trace = last.held.everything last.listed ↔
      (succeeding.meeting Complete).History first trace last := by
  have known : Looked first.held first.listed True [] ⟨first, True, []⟩ :=
    ⟨rfl, rfl, rfl, Iff.rfl, rfl⟩
  have told := run.meets_iff
    (fun (s : Inventory) (seen : List Visit) => seen = s.held.everything s.listed) history
    (runModuleInfo_told known)
  rwa [foldl_noteVisit, List.nil_append] at told

end Body

end Demo

section Suite

/-- The lists the suite fetches are handled exactly if the steps of the module leave it no way
not to: in the whole suite no cell is read that was not written and the session is opened on a
slot of the array, and the module info shows all there is. -/
theorem lists_handled_iff (argv : List String) (session : SessionHandle) :
    (∀ trace rc held last, (main argv).Runs trace rc →
      conforming.History (.start held) trace last →
        ((Handling.of trace).careful = true ↔
          (conforming.meeting Served).History (.start held) trace last)) ∧
      ∀ trace rc first last, (runModuleInfo session).Runs trace rc →
        succeeding.History first trace last →
          (visits trace = last.held.everything last.listed ↔
            (succeeding.meeting Complete).History first trace last) :=
  ⟨fun _ _ _ _ => main_careful_iff, fun _ _ _ _ => runModuleInfo_shows_iff⟩

def cellsOf (values : List Nat) (capacity : Nat) : Vector (Option Nat) capacity :=
  Vector.ofFn fun i => values[i.val]?

theorem holds_cellsOf {values : List Nat} {capacity : Nat} (fits : values.length ≤ capacity)
    {rv : CkRv} : Listed.Holds ⟨rv, cellsOf values capacity, values.length⟩ values := by
  refine ⟨rfl, List.ext_getElem? fun i => ?_⟩
  rw [cellsOf, Vector.getElem?_toList, Vector.getElem?_ofFn, List.getElem?_append,
    List.length_map, List.getElem?_map, List.getElem?_replicate]
  by_cases inside : i < values.length
  · rw [dif_pos (Nat.lt_of_lt_of_le inside fits), if_pos inside, List.getElem?_eq_getElem inside]
    rfl
  · have outside : values[i]? = none := List.getElem?_eq_none (Nat.le_of_not_lt inside)
    rw [if_neg inside]
    by_cases within : i < capacity
    · rw [dif_pos within, if_pos (by omega)]
      exact congrArg some outside
    · rw [dif_neg within, if_neg (by omega)]

def listAnswer (values : List Nat) (capacity : Nat) : Listed capacity :=
  if values.length ≤ capacity then ⟨ckrOk, cellsOf values capacity, values.length⟩
  else ⟨ckrBufferTooSmall, Vector.replicate capacity none, values.length⟩

/-- A module that holds this, and opens no session. Its state are the handles its search has
not handed out. -/
def servingModule (held : Holdings) : Server cryptoki (List ObjectHandle) := fun s request =>
  match request with
  | .countSlots _ => (⟨ckrOk, held.slots.length⟩, s)
  | .getSlotList _ count => (listAnswer held.slots count, s)
  | .countMechanisms slot => (⟨ckrOk, (held.mechanisms slot).length⟩, s)
  | .getMechanismList slot count => (listAnswer (held.mechanisms slot) count, s)
  | .openSession _ => (⟨0x3, 0⟩, s)
  | .findObjectsInit _ => (ckrOk, held.objects)
  | .findObjects _ count =>
    (⟨ckrOk, cellsOf (s.take count) count, (s.take count).length⟩, s.drop count)
  | other => ((exampleModule (fun _ => 7) .start other).1, s)

theorem listAnswer_fetches {values : List Nat} {capacity : Nat} :
    (listAnswer values capacity).Fetches values ∧ (listAnswer values capacity).Answered := by
  have apart : ckrOk ≠ ckrBufferTooSmall := by decide
  rw [listAnswer]
  split
  · rename_i fits
    exact ⟨⟨fun _ => ⟨fits, holds_cellsOf fits⟩, fun refused => absurd refused apart⟩, .inl rfl⟩
  · rename_i exceeds
    refine ⟨⟨fun succeeded => absurd succeeded apart.symm, fun _ => ?_⟩, .inr rfl⟩
    refine ⟨Nat.lt_of_not_le exceeds, rfl, fun i written => ?_⟩
    obtain ⟨value, cell⟩ := written
    rw [Vector.getElem?_replicate] at cell
    split at cell <;> simp at cell

theorem mayBecome_refl {held : Holdings} {kind : Kind} : held.MayBecome kind held := by
  cases kind <;> simp [Holdings.MayBecome]

/-- What the module holds, its search, and the slots it listed last. -/
def Serves (held : Holdings) (listed : List SlotId) (remaining : List ObjectHandle)
    (s : Inventory) : Prop :=
  s.held = held ∧ s.remaining = remaining ∧ (s.listed = listed ∨ s.listed = held.slots)

theorem servingModule_conforms {held : Holdings} {listed : List SlotId} :
    succeeding.KeptBy (servingModule held) (Serves held listed) := by
  intro remaining s request serves
  obtain ⟨rfl, rfl, latest⟩ := serves
  refine ⟨{ s.next ⟨request, _⟩ with held := s.held }, ⟨⟨?_, s.held, mayBecome_refl, rfl⟩, ?_⟩,
    rfl, ?_, ?_⟩
  · cases request with
    | countSlots tokenPresent => cases tokenPresent <;> first | trivial | exact fun _ => rfl
    | getSlotList tokenPresent count =>
        cases tokenPresent <;> first | trivial | exact listAnswer_fetches.1
    | countMechanisms slot => exact fun _ => rfl
    | getMechanismList slot count => exact listAnswer_fetches.1
    | findObjects session count =>
        have short : (s.remaining.take count).length ≤ count := List.length_take_le ..
        have same : s.remaining.take (s.remaining.take count).length = s.remaining.take count := by
          rw [List.length_take, ← List.take_eq_take_min]
        intro _
        refine ⟨short, ?_⟩
        change Listed.Holds _ (s.remaining.take (s.remaining.take count).length)
        rw [same]
        exact holds_cellsOf short
    | _ => trivial
  · cases request with
    | getSlotList | getMechanismList => exact listAnswer_fetches.2
    | _ => rfl
  · cases request with
    | countSlots tokenPresent | getSlotList tokenPresent count => cases tokenPresent <;> rfl
    | findObjects session count =>
        change s.remaining.drop (s.remaining.take count).length = s.remaining.drop count
        rw [List.length_take, ← List.drop_eq_drop_min]
    | _ => rfl
  · cases request with
    | countSlots tokenPresent | getSlotList tokenPresent count =>
      cases tokenPresent
      · exact latest
      · exact .inr rfl
    | _ => exact latest

def small : Holdings := ⟨[4, 7], fun _ => [0x250, 0x9999, 0x1041], [11, 12, 13]⟩

theorem lists_handled_small :
    (∃ last, (conforming.meeting Served).History (.start small)
      ((main ["pkcs11_demo"]).transcript (servingModule small) []) last) ∧
      ∃ last, (succeeding.meeting Complete).History ⟨small, [], small.slots, true⟩
        ((runModuleInfo 1).transcript (servingModule small) []) last := by
  have whole : ∃ last, succeeding.History (.start small)
      ((main ["pkcs11_demo"]).transcript (servingModule small) []) last :=
    servingModule_conforms.history ⟨rfl, rfl, .inl rfl⟩
  obtain ⟨last, history⟩ := whole
  refine ⟨⟨last, ((lists_handled_iff ["pkcs11_demo"] 1).1 _ _ _ _
    Program.runs_transcript history.of_meeting).mp ?_⟩, ?_⟩
  · decide +kernel
  · have first : Serves small small.slots [] ⟨small, [], small.slots, true⟩ :=
      ⟨rfl, rfl, .inl rfl⟩
    obtain ⟨last, history, held, _, listed⟩ :=
      @Contract.KeptBy.history_related _ _ _ _ _ _ _ servingModule_conforms (runModuleInfo 1) _ _ first
    refine ⟨last, ((lists_handled_iff [] 1).2 _ _ _ _ Program.runs_transcript history).mp ?_⟩
    rw [held, listed.elim id id]
    decide +kernel

/-- A module with more slots than the array holds. -/
def crowded : Holdings := ⟨List.range 9, fun _ => [], []⟩

/-- With nine token slots the suite opens a session on whatever its stack held. -/
theorem main_opens_unwritten_slot :
    ∃ trace rc last, (main ["pkcs11_demo"]).Runs trace rc ∧
      conforming.History (.start crowded) trace last ∧ (Handling.of trace).careful = false := by
  have whole : ∃ last, succeeding.History (.start crowded)
      ((main ["pkcs11_demo"]).transcript (servingModule crowded) []) last :=
    servingModule_conforms.history ⟨rfl, rfl, .inl rfl⟩
  obtain ⟨last, history⟩ := whole
  exact ⟨_, _, last, Program.runs_transcript, history.of_meeting, by decide +kernel⟩

end Suite

end Se05x.Pkcs11
